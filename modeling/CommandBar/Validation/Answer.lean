/-
The fields of an answer.

An answer is the object that the oracle has sent.  Its text fields are trimmed,
and one that is missing, null or blank counts as absent.  The settings may be an
object or the JSON text of one, and a single setting may be named beside them; it
overrides the one of that name.
-/
import CommandBar.Command
import CommandBar.Json.Reader
import CommandBar.Text.Blank
import CommandBar.Validation.Refusal

namespace CommandBar

/-- The object in the oracle's reply. -/
abbrev Answer := Fields Json.Value

namespace Answer

open Json

/-- A text field. -/
def text (answer : Answer) (field : String) : Except Fault (Option String) :=
  match Value.member answer field with
  | .null => .ok none
  | .str s =>
    let trimmed := Text.trim s
    .ok (if trimmed = "" then none else some trimmed)
  | found => (Refusal.notText field found).raise

/-- The enabled action that the answer names. -/
def action (answer : Answer) (vocabulary : Vocabulary) : Except Fault ActionSpec :=
  let found := Value.member answer "action"
  let named :=
    match found with
    | .str s => Action.ofName? s
    | _ => none
  match named with
  | none => (Refusal.unknownAction found).raise
  | some action =>
    match vocabulary.find? action with
    | none => (Refusal.disabledAction found).raise
    | some spec => .ok spec

/-- The widget type, which has to be in the catalog. -/
def widgetType (answer : Answer) (catalog : Catalog) : Except Fault (Option String) := do
  match ← answer.text "widgetType" with
  | none => .ok none
  | some type =>
    match catalog.find? type with
    | some _ => .ok (some type)
    | none => (Refusal.unknownType type).raise

/-- The settings given together. -/
def settingsObject (answer : Answer) : Except Fault (Fields Value) :=
  match Value.member answer "initialSettings" with
  | .null => .ok []
  | .obj members => .ok members
  | .str s =>
    if s = "" then .ok []
    else
      match Json.read s with
      | .error why => (Refusal.unreadableSettings why).raise
      | .ok (.obj members) => .ok members
      | .ok _ => Refusal.settingsText.raise
  | found => (Refusal.settingsKind found).raise

/-- The settings to apply, the single one included. -/
def settings (answer : Answer) : Except Fault (Fields Value) := do
  let together ← answer.settingsObject
  match ← answer.text "settingName" with
  | none => .ok together
  | some name => .ok (Fields.set name (Value.member answer "settingValue") together)

/-- The widget that the answer names, none without an id and a title. -/
def target (answer : Answer) : Except Fault (Option Target) := do
  let id ← answer.text "targetWidgetId"
  let title ← answer.text "targetWidgetTitle"
  .ok (if id = none ∧ title = none then none else some ⟨id, title⟩)

end Answer

end CommandBar
