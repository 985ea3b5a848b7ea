/-
Widgets and references to them.

A widget has an id, a type, a title and settings.  A reference names a widget by
its id, by its title, or by both.
-/
import CommandBar.Json.Value

namespace CommandBar

/-- A widget on a dashboard. -/
structure Widget where
  id : String
  type : String
  title : String
  settings : Fields Json.Value := []
deriving DecidableEq

/-- How a widget is named. -/
structure Target where
  id : Option String := none
  title : Option String := none
deriving Repr, DecidableEq

/-- The reference to a widget by its id and title. -/
def Widget.target (w : Widget) : Target :=
  ⟨some w.id, some w.title⟩

/-- Whether there is a text and it is not empty. -/
def isGiven : Option String → Bool
  | some s => s != ""
  | none => false

/-- How messages describe the widget that is meant, by its title if it has one. -/
def Target.describe (t : Target) : String :=
  if isGiven t.title then "\"" ++ t.title.getD "" ++ "\""
  else if isGiven t.id then "id " ++ t.id.getD ""
  else "that widget"

end CommandBar
