/-
The console.

The console reads a command a line, shows what the user is told, whether the
command was applied, and then what is on the dashboard.  It ends with the input,
with a word for leaving, or when it is interrupted.  Inspecting a text shows the
command that it would become and applies nothing.
-/
import CommandBar.Session
import CommandBar.Text.Case

namespace CommandBar

namespace Console

open Json

/-- What is shown at the start. -/
def greeting : String :=
  "Type a dashboard command, or 'quit' to leave.\n\n"

/-- What is shown before a line is read. -/
def ready : String := "> "

/-- What is shown when the console is interrupted. -/
def farewell : String := "\nShutting down.\n"

/-- Whether the line asks to leave. -/
def isLeaving (line : String) : Bool :=
  ["quit", "exit", "bye"].contains (Text.lower (Text.trim line))

/-! ### What is shown -/

/-- Lines, each with its end. -/
def unlines (lines : List String) : String :=
  String.join (lines.map (· ++ "\n"))

/-- The line of a note. -/
def noteLine : Note → String
  | .told text => "  " ++ text
  | .printed line => line

/-- The line that says whether a command was applied; with its reply at hand that takes no time. -/
def statusLine (outcome : Outcome) : String :=
  let status := match outcome.kind? with
    | some kind => kind.name
    | none => "ok"
  "  [0.0s] " ++ status

/-- What is shown of a command and its result, if the result is no fault. -/
def shown (s : Session) (result : Option Outcome) : String :=
  unlines (s.notes.map noteLine ++ (result.map statusLine).toList ++
    [s.host.dashboard.describe, ""])

/-! ### A run -/

/-- What comes from the keyboard. -/
inductive Input
  | line (text : String)
  | interrupt
deriving Repr, DecidableEq

/-- A run of the console. -/
structure Run where
  output : String
  session : Session
  /-- The input that was not read. -/
  unread : List Input
  /-- What ended the run before its time. -/
  fault : Option Fault := none

/-- Interprets one line and shows what came of it. -/
def turn (s : Session) (line : String) : Except Fault Unit × String × Session :=
  let after := ({ s with notes := [], finished := [] } : Session).submit line
  match after.finished with
  | (_, .error fault) :: _ => (.error fault, unlines (after.notes.map noteLine), after)
  | (_, .ok result) :: _ => (.ok (), shown after result, after)
  | [] => (.ok (), shown after none, after)

/-- Reads input until something ends the run. -/
def loop : List Input → Session → Run
  | [], s => { output := ready, session := s, unread := [] }
  | .interrupt :: rest, s => { output := ready ++ farewell, session := s, unread := rest }
  | .line text :: rest, s =>
    if isLeaving text then { output := ready, session := s, unread := rest }
    else
      match turn s text with
      | (.error fault, output, s) =>
        { output := ready ++ output, session := s, unread := rest, fault := some fault }
      | (.ok _, output, s) =>
        let later := loop rest s
        { later with output := ready ++ output ++ later.output }

/-- Runs the console. -/
def run (input : List Input) (s : Session) : Run :=
  let r := loop input s
  { r with output := greeting ++ r.output }

/-! ### Inspecting a text -/

/-- The interpreter's reading of a text on an empty dashboard. -/
def inspect (text : String) (reply : Reply) : Except Fault Command := do
  let raw ← (Gateway.accept reply).mapError .command
  Interpreter.standard.command ⟨text, "typed"⟩ raw []

/-- The lines about a command. -/
def commandLines (c : Command) : List String :=
  let field (name : String) (value : Option String) : List String :=
    (value.map fun v => name ++ ": " ++ v).toList
  let target := match c.target with
    | some target => ["target: " ++ plain (.ofText? target.id)]
    | none => []
  ["action: " ++ c.action.name] ++ field "widget_type" c.widgetType ++ field "title" c.title ++
    field "contextual_hint" c.contextualHint ++ target ++
    c.patch.map (fun (name, value) => "settings." ++ name ++ ": " ++ plain value) ++
    ["feedback: " ++ c.feedback]

/-- What is shown of a text, and the fault that is no error of the pipeline. -/
def inspection (text : String) (reply : Reply) : String × Option Fault :=
  let heading := "> " ++ text
  match inspect text reply with
  | .ok c => (unlines (heading :: commandLines c), none)
  | .error (.command e) =>
    (unlines [heading, "error: " ++ e.kind.name, "detail: " ++ e.detail], none)
  | .error fault => (unlines [heading], some fault)

/-! ### Arguments -/

/-- What the program is asked to do. -/
inductive Task
  /-- To run the console. -/
  | interact
  /-- To inspect a text. -/
  | inspect (text : String)
  /-- To take commands from a chat. -/
  | chat
deriving Repr, DecidableEq

/-- What the arguments ask for; any that are not known ask for the console. -/
def Task.ofArguments : List String → Task
  | "-parse" :: word :: words => .inspect (String.intercalate " " (word :: words))
  | "-telegram" :: _ => .chat
  | _ => .interact

end Console

end CommandBar
