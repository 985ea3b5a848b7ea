/-
The schema of the oracle's answers.

The oracle is offered a flat object with ten properties, of which only `action` is
required.  The actions and the widget types it may name are those of the
vocabulary and the catalog in use, in their order.
-/
import CommandBar.Action
import CommandBar.Catalog.Standard

namespace CommandBar

namespace OutputSchema

open Json

/-- A property of one kind of value. -/
def property (kind description : String) : Value :=
  .obj [("type", .str kind), ("description", .str description)]

/-- A text property restricted to some values. -/
def oneOf (values : List String) (description : String) : Value :=
  .obj [("type", .str "string"), ("enum", .arr (values.map .str)),
    ("description", .str description)]

/-- The schema of a command. -/
def ofVocabulary (vocabulary : Vocabulary) (catalog : Catalog) : Value :=
  .obj [
    ("type", .str "object"),
    ("description", .str "One command that changes the widget dashboard."),
    ("properties", .obj [
      ("action", oneOf (vocabulary.map (·.action.name)) "The action to perform."),
      ("widgetType", oneOf catalog.types "Widget type to add, open or focus."),
      ("targetWidgetId", property "string" "Exact ID of an existing widget, when known."),
      ("targetWidgetTitle",
        property "string" "Title of an existing widget as the user said it."),
      ("title", property "string" "Optional title for a newly added widget."),
      ("initialSettings", property "object" <|
        "Settings to apply, keyed by setting name. " ++
          "For YouTube searches: \x7b\"defaultSearchQuery\": \"...\"\x7d."),
      ("settingName",
        property "string" "Single setting to change, as an alternative to initialSettings."),
      ("settingValue", .obj [
        ("type", .arr [.str "string", .str "number", .str "boolean", .str "null"]),
        ("description", .str "New value for settingName.")]),
      ("contextualHint",
        property "string" "The user's phrasing that implies a widget state."),
      ("feedbackToUser",
        property "string" "Short confirmation or question to show the user.")]),
    ("required", .arr [.str "action"])]

/-- The schema of the standard vocabulary and catalog. -/
def standard : Value :=
  ofVocabulary .standard .standard

end OutputSchema

end CommandBar
