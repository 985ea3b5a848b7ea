/-
The log of commands.

Every command that comes to a result leaves an entry of two lines: when it was
given, how, and what was said, and then what became of it.
-/
import CommandBar.Dispatcher

namespace CommandBar

namespace Log

open Json

/-- What is noted about an applied command. -/
def parts (c : Command) : List String :=
  let widgetType :=
    if isGiven c.widgetType then ["widgetType=" ++ literal (.ofText? c.widgetType)] else []
  let target :=
    match c.target with
    | some target => ["target=" ++ literal (.ofText? target.id)]
    | none => []
  let settings := if c.patch = [] then [] else ["settings=" ++ literal (.obj c.patch)]
  let warned := if c.warnings = [] then [] else ["warned"]
  c.action.name :: (widgetType ++ target ++ settings ++ warned)

/-- What became of a command; without an outcome the interface was closed. -/
def ending : Option Outcome → String
  | none => "discarded (interface closed)"
  | some (.applied c) => String.intercalate ", " (parts c) ++ ", ok"
  | some (.failed kind feedback) => kind.name ++ ": " ++ feedback

/-- The entry of a command. -/
def entry (time : String) (u : Utterance) (result : Option Outcome) : String :=
  time ++ " [" ++ u.origin ++ "]  " ++ u.text ++ "\n  -> " ++ ending result ++ "\n"

end Log

end CommandBar
