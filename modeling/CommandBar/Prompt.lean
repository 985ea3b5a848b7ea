/-
The instructions for the oracle.

The instructions list the enabled actions, the widget types with their settings,
the rules for each key setting with one right and one wrong example, how widgets
are identified, what is on the dashboard, and the form of the answer.  They are a
function of the widgets, the vocabulary and the catalog; settings enter sorted by
name, so their order on the dashboard does not matter.
-/
import CommandBar.Action
import CommandBar.Catalog.Blueprint
import CommandBar.Json.Writer
import CommandBar.Widget

namespace CommandBar

namespace Prompt

open Json

/-- Lines as one text. -/
def lines (ls : List String) : String :=
  String.intercalate "\n" ls

/-- What the oracle is, and what it has to produce. -/
def preamble : String := lines [
  "You are the command interpreter for a customizable widget dashboard.",
  "Translate the user's command (typed, or transcribed from voice) into exactly",
  "ONE command object that matches the provided schema. Never invent widget IDs:",
  "only use IDs listed under \"Current dashboard\"."]

/-- How widgets are identified. -/
def targetRules : String := lines [
  "--- Identifying widgets ---",
  "- Prefer 'targetWidgetId' when you can tell which listed widget is meant.",
  "- Otherwise use 'targetWidgetTitle' with the widget's exact title.",
  "- If several widgets could match and the user did not say which, use action",
  "  'noop' and ask which one in 'feedbackToUser'.",
  "- If the user's request is unclear or not about the dashboard, use 'noop'."]

/-- The form of the answer. -/
def responseRules : String := lines [
  "--- Response format ---",
  "- Respond with a single command object matching the schema, nothing else.",
  "- 'initialSettings' keys must be setting names of that widget type, and",
  "  values must use the listed type or one of the listed choices.",
  "- Always include a short 'feedbackToUser' confirming what you are doing,",
  "  e.g. \"Opening YouTube...\"."]

/-! ### Actions -/

/-- A field name, the bar between alternatives spelt out. -/
def fieldName (name : String) : String :=
  String.ofList (name.toList.flatMap fun c => if c = '|' then " or ".toList else [c])

/-- A list of field names. -/
def fieldNames (names : List String) : String :=
  if names = [] then "none" else String.intercalate ", " (names.map fieldName)

/-- The lines about an action. -/
def actionLines (spec : ActionSpec) : List String := [
  "- " ++ spec.action.name ++ ": " ++ spec.summary,
  "    required: " ++ fieldNames spec.required,
  "    optional: " ++ fieldNames spec.optional]

/-- The enabled actions. -/
def actionSection (vocabulary : Vocabulary) : String :=
  lines ("--- Actions ---" :: vocabulary.flatMap actionLines)

/-! ### Widget types -/

/-- What kind of value a setting with this default takes. -/
def settingKind : Value → String
  | .bool _ => "boolean"
  | .int _ | .float _ => "number"
  | _ => "string"

/-- The line about a setting. -/
def settingLine (name : String) (info : SettingInfo) : String :=
  let choices :=
    if info.choices = [] then ""
    else ", one of: " ++ String.intercalate ", " (info.choices.map fun c => "'" ++ c ++ "'")
  let description := if info.description = "" then "" else " - " ++ info.description
  "    " ++ name ++ " (" ++ settingKind info.default ++ ", default " ++ render info.default ++
    choices ++ ")" ++ description

/-- The lines about a widget type. -/
def typeLines (b : Blueprint) : List String :=
  let heading := "- \"" ++ b.type ++ "\" (" ++ b.displayName ++ "): " ++ b.description
  let settings :=
    if b.settings = [] then ["    no configurable settings"]
    else b.settings.map fun (name, info) => settingLine name info
  heading :: settings

/-- The widget types. -/
def catalogSection (catalog : Catalog) : String :=
  lines ("--- Widget types ---" :: catalog.flatMap typeLines)

/-! ### Key settings -/

/-- The line about an existing widget and its key setting. -/
def existingLine (name : String) (w : Widget) : String :=
  let value := Value.member w.settings name
  let current := if value.isTruthy then "'" ++ plain value ++ "'" else "none"
  "  - ID '" ++ w.id ++ "', title '" ++ w.title ++ "', current " ++ name ++ ": " ++ current

/-- The lines about the widgets of the type. -/
def existingLines (b : Blueprint) (key : KeySetting) (widgets : List Widget) : List String :=
  match widgets.filter fun w => w.type == b.type with
  | [] => ["No " ++ b.displayName ++ " widgets exist yet; 'openOrFocusWidget' will add one."]
  | existing => ("Existing " ++ b.displayName ++ " widgets:") ::
      existing.map (existingLine key.name)

/-- The rules for a key setting, with an example pair. -/
def keySection (b : Blueprint) (key : KeySetting) (widgets : List Widget) : String :=
  lines ([
    "--- " ++ b.displayName ++ " instructions (CRITICAL) ---",
    "When the user's command is about " ++ b.displayName ++
      ", the action is 'openOrFocusWidget' with widgetType '" ++ b.type ++ "'.",
    "If the command shows ANY intent to find specific content (phrases like" ++
      " 'search for', 'find videos of', 'show me videos of', 'look for'):",
    "  - you MUST extract the search term from the user's words;",
    "  - you MUST include 'initialSettings' with the key '" ++ key.name ++ "' set to" ++
      " exactly that term.",
    "  - THIS IS NOT OPTIONAL. Leaving out initialSettings." ++ key.name ++ " means the" ++
      " search will NOT happen and the command is INCORRECT.",
    "CORRECT example for '" ++ key.correct.spoken ++ "':",
    "  " ++ render key.correct.command,
    "INCORRECT example for '" ++ key.incorrect.spoken ++ "':",
    "  " ++ render key.incorrect.command ++ "  <-- WRONG, missing initialSettings." ++ key.name,
    "Only when the user simply wants to open or focus " ++ b.displayName ++ " with no search" ++
      " intent may 'initialSettings' be omitted."] ++ existingLines b key widgets)

/-! ### The dashboard -/

/-- The line about a widget. -/
def widgetLine (w : Widget) : String :=
  "- ID \"" ++ w.id ++ "\", type \"" ++ w.type ++ "\", title \"" ++ w.title ++ "\", settings " ++
    render (sorted (.obj w.settings))

/-- What is on the dashboard. -/
def inventorySection (widgets : List Widget) : String :=
  if widgets = [] then lines ["--- Current dashboard ---", "The dashboard is empty."]
  else lines ("--- Current dashboard ---" :: widgets.map widgetLine)

/-- The sections about key settings. -/
def keySections (catalog : Catalog) (widgets : List Widget) : List String :=
  catalog.filterMap fun b => b.keySetting.map fun key => keySection b key widgets

/-- The instructions for a dashboard. -/
def instructions (widgets : List Widget) (vocabulary : Vocabulary) (catalog : Catalog) : String :=
  let sections := [preamble, actionSection vocabulary, catalogSection catalog] ++
    keySections catalog widgets ++
    [targetRules, inventorySection widgets, responseRules]
  String.intercalate "\n\n" sections ++ "\n"

end Prompt

end CommandBar
