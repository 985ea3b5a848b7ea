/-
Why an answer of the oracle is refused.

Each refusal is one cause with the facts it needs.  What the log and the user are
told of it is decided here, and nowhere else.
-/
import CommandBar.Action
import CommandBar.Catalog.Blueprint
import CommandBar.Error
import CommandBar.Json.Writer

namespace CommandBar

/-- Why an answer is refused. -/
inductive Refusal
  /-- The action is none of the five. -/
  | unknownAction (found : Json.Value)
  /-- The action is not in the vocabulary. -/
  | disabledAction (found : Json.Value)
  /-- A text field holds something else. -/
  | notText (field : String) (found : Json.Value)
  /-- The widget type is not in the catalog. -/
  | unknownType (type : String)
  /-- The settings are a text that is no JSON. -/
  | unreadableSettings (why : String)
  /-- The settings are the text of something other than an object. -/
  | settingsText
  /-- The settings are neither an object nor a text. -/
  | settingsKind (found : Json.Value)
  /-- The widget has no setting of that name. -/
  | unknownSetting (blueprint : Blueprint) (name : String)
  /-- The value does not fit the setting; the choices are listed if it has any. -/
  | badValue (blueprint : Blueprint) (name : String) (value : Json.Value) (choices : List String)
  /-- The action needs a widget type. -/
  | noType (action : Action)
  /-- There is nothing to change. -/
  | noChange
  /-- No widget is named. -/
  | noTarget
  /-- No widget of the type has the id. -/
  | noSuchId (type id described : String)
  /-- No widget matches. -/
  | noMatch (described : String)
  /-- Several widgets match. -/
  | manyMatches (count : Nat) (described : String)
deriving DecidableEq

namespace Refusal

/-- The kind of error that the refusal is. -/
def kind : Refusal → ErrorKind
  | .unknownAction _ | .disabledAction _ => .unknownAction
  | .noTarget | .noSuchId _ _ _ | .noMatch _ | .manyMatches _ _ => .target
  | _ => .malformedResponse

/-- What the log says. -/
def detail : Refusal → String
  | .unknownAction found => "unknown action " ++ Json.literal found
  | .disabledAction found => "action " ++ Json.literal found ++ " is not enabled"
  | .notText field found => field ++ " should be a string, got " ++ found.kindName
  | .unknownType type => "unknown widgetType " ++ Text.quoted type
  | .unreadableSettings why => "initialSettings is not valid JSON: " ++ why
  | .settingsText => "initialSettings should be a JSON object"
  | .settingsKind found => "initialSettings should be an object, got " ++ found.kindName
  | .unknownSetting b name => b.type ++ " has no setting " ++ Text.quoted name
  | .badValue b name value _ =>
    "bad value " ++ Json.literal value ++ " for " ++ b.type ++ "." ++ name
  | .noType action => action.name ++ " needs a widgetType"
  | .noChange => "updateWidgetSettings needs settings to change"
  | .noTarget => "no target given"
  | .noSuchId type id _ => "no " ++ type ++ " widget with id " ++ Text.quoted id
  | .noMatch described => "no widget matches " ++ described
  | .manyMatches count described => s!"{count} widgets match " ++ described

/-- What the user is told, if it is not what the kind of error says anyway. -/
def feedback? : Refusal → Option String
  | .unknownType type => some ("I don't know a widget called '" ++ type ++ "'.")
  | .unknownSetting b name => some (b.displayName ++ " has no setting called '" ++ name ++ "'.")
  | .badValue b name value choices =>
    let offer :=
      if choices = [] then "" else " Try one of: " ++ String.intercalate ", " choices ++ "."
    some ("'" ++ Json.plain value ++ "' isn't a valid " ++ name ++ " for " ++ b.displayName ++
      "." ++ offer)
  | .noTarget => some "Which widget do you mean? Please say its title."
  | .noSuchId _ _ described | .noMatch described =>
    some ("I couldn't find " ++ described ++ " on the dashboard.")
  | .manyMatches _ described =>
    some ("More than one widget matches " ++ described ++ ". Please say which one by its title.")
  | _ => none

/-- The error that the refusal is. -/
def error (r : Refusal) : CommandError :=
  ⟨r.kind, r.detail, r.feedback?.getD r.kind.defaultFeedback⟩

/-- Stops with the refusal. -/
def raise {α : Type} (r : Refusal) : Except Fault α :=
  .error (.command r.error)

end Refusal

end CommandBar
