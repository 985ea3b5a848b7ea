/-
Commands.

A command is an action with everything needed to apply it: the type of widget,
the widget it is for, the settings to apply, a title, and what to tell the user.
-/
import CommandBar.Action
import CommandBar.Widget

namespace CommandBar

/-- A command that has passed validation. -/
structure Command where
  action : Action
  /-- What the user is told once it is applied. -/
  feedback : String := ""
  widgetType : Option String := none
  target : Option Target := none
  settings : Option (Fields Json.Value) := none
  title : Option String := none
  contextualHint : Option String := none
  warnings : List String := []
deriving DecidableEq

/-- The settings to apply, none without any. -/
def Command.patch (c : Command) : Fields Json.Value :=
  c.settings.getD []

/-- What the user said, and whether it was typed or spoken. -/
structure Utterance where
  text : String
  origin : String := "typed"
deriving Repr, DecidableEq

end CommandBar
