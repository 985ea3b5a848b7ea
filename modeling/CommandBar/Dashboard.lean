/-
The dashboard.

A dashboard holds widgets in order, remembers which one is focused, and numbers
the widgets it adds.  There are four changes: add, focus, update and remove.  A
change that names a widget acts on the first one with that id, and a change that
cannot be made leaves the dashboard as it was: `apply` either gives the next
dashboard or says what is wrong.
-/
import CommandBar.Catalog.Standard
import CommandBar.Error
import CommandBar.Json.Writer
import CommandBar.Widget

namespace CommandBar

/-- A change to a dashboard. -/
inductive Change
  /-- Adds a widget of a type, its settings overriding the defaults. -/
  | add (type : Option String) (settings : Option (Fields Json.Value)) (title : Option String)
  /-- Focuses a widget and sets some of its settings. -/
  | focus (id : Option String) (settings : Option (Fields Json.Value))
  /-- Sets some settings of a widget. -/
  | update (id : Option String) (settings : Option (Fields Json.Value))
  /-- Removes a widget. -/
  | remove (id : Option String)
deriving DecidableEq

/-- The widgets of a user. -/
structure Dashboard where
  /-- The types that can be added. -/
  catalog : Catalog := .standard
  widgets : List Widget := []
  /-- The number that the next id tries first. -/
  nextNumber : Nat := 1
  /-- The id of the focused widget. -/
  focused : Option String := none
deriving DecidableEq

namespace Dashboard

open Json

/-- The ids on the dashboard, in order. -/
def ids (d : Dashboard) : List String :=
  d.widgets.map (·.id)

/-- The widget that an id names. -/
def find? (d : Dashboard) (id : Option String) : Option Widget :=
  d.widgets.find? fun w => decide (some w.id = id)

/-- An id that names no widget. -/
def noSuchWidget (id : Option String) : Fault :=
  .command (.withFeedback .rejected ("no widget with id " ++ literal (.ofText? id))
    "That widget is no longer on the dashboard.")

/-- A type that cannot be added. -/
def unknownType (type : Option String) : Fault :=
  .command (.ofKind .rejected ("unknown widget type " ++ literal (.ofText? type)))

/-! ### Ids -/

/-- The id with that number. -/
def numberedId (type : String) (n : Nat) : String :=
  type ++ "-" ++ toString n

/-- The first number from `n` on whose id is not taken; `fuel` bounds the taken ones. -/
def freshNumber (type : String) (taken : List String) : Nat → Nat → Nat
  | 0, n => n
  | fuel + 1, n =>
    if numberedId type n ∈ taken then freshNumber type taken fuel (n + 1) else n

/-! ### Changes -/

/-- Changes the first widget with that id. -/
def changeFirst (id : String) (f : Widget → Widget) : List Widget → List Widget
  | [] => []
  | w :: rest => if w.id = id then f w :: rest else w :: changeFirst id f rest

/-- Sets settings of a widget. -/
def configure (d : Dashboard) (id : String) (patch : Fields Value) : Dashboard :=
  { d with
    widgets := changeFirst id (fun w => { w with settings := w.settings.override patch })
      d.widgets }

/-- Adds a widget after a blueprint and focuses it. -/
def addWidget (d : Dashboard) (b : Blueprint) (patch : Fields Value) (title : Option String) :
    Dashboard :=
  let number := freshNumber b.type d.ids d.widgets.length d.nextNumber
  let w : Widget := {
    id := numberedId b.type number
    type := b.type
    title := if isGiven title then title.getD "" else b.defaultTitle
    settings := Fields.override b.defaults patch }
  { d with widgets := d.widgets ++ [w], nextNumber := number + 1, focused := some w.id }

/-- Removes the first widget with that id, and the focus with it. -/
def removeWidget (d : Dashboard) (id : String) : Dashboard :=
  { d with
    widgets := d.widgets.eraseP fun w => decide (w.id = id)
    focused := if d.focused = some id then none else d.focused }

/-- Makes a change.  Adding a widget gives its id. -/
def apply (d : Dashboard) : Change → Except Fault (Dashboard × Option String)
  | .add type settings title =>
    match d.catalog.ofType? type with
    | none => .error (unknownType type)
    | some b =>
      let next := d.addWidget b (settings.getD []) title
      .ok (next, next.focused)
  | .focus id settings =>
    match d.find? id with
    | none => .error (noSuchWidget id)
    | some w => .ok ({ d.configure w.id (settings.getD []) with focused := some w.id }, none)
  | .update id settings =>
    match d.find? id, settings with
    | none, _ => .error (noSuchWidget id)
    | some _, none => .error .noSettings
    | some w, some patch => .ok (d.configure w.id patch, none)
  | .remove id =>
    match d.find? id with
    | none => .error (noSuchWidget id)
    | some w => .ok (d.removeWidget w.id, none)

/-! ### Description -/

/-- The line about a widget, with a star if it is focused. -/
def line (d : Dashboard) (w : Widget) : String :=
  let mark := if d.focused = some w.id then "*" else " "
  " " ++ mark ++ " " ++ w.title ++ " [" ++ w.type ++ ", " ++ w.id ++ "] " ++
    literal (.obj w.settings)

/-- What is on the dashboard, a line for each widget. -/
def describe (d : Dashboard) : String :=
  if d.widgets = [] then "  (dashboard is empty)"
  else String.intercalate "\n" (d.widgets.map d.line)

end Dashboard

end CommandBar
