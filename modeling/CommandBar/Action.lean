/-
The vocabulary of actions.

There are five actions.  A vocabulary lists those that are enabled, each with the
handler that applies it, what the oracle is told about it, and whether it acts on
a widget that has to exist already.
-/

namespace CommandBar

/-- What a command does. -/
inductive Action
  | addWidget
  | openOrFocusWidget
  | updateWidgetSettings
  | removeWidget
  | noop
deriving Repr, DecidableEq

namespace Action

/-- The name of the action in the oracle's answers. -/
def name : Action → String
  | .addWidget => "addWidget"
  | .openOrFocusWidget => "openOrFocusWidget"
  | .updateWidgetSettings => "updateWidgetSettings"
  | .removeWidget => "removeWidget"
  | .noop => "noop"

/-- Every action. -/
def all : List Action :=
  [.addWidget, .openOrFocusWidget, .updateWidgetSettings, .removeWidget, .noop]

/-- The action of that name. -/
def ofName? (s : String) : Option Action :=
  all.find? (·.name == s)

/-- Whether the action sets settings of a widget. -/
def setsSettings : Action → Bool
  | .addWidget | .openOrFocusWidget | .updateWidgetSettings => true
  | .removeWidget | .noop => false

theorem ofName?_name (a : Action) : ofName? a.name = some a := by
  cases a <;> decide

end Action

/-- How one enabled action is described and applied. -/
structure ActionSpec where
  action : Action
  /-- The name of the handler that applies it. -/
  handler : String
  summary : String
  /-- The fields it needs; a bar separates alternatives. -/
  required : List String := []
  optional : List String := []
  /-- Whether it acts on a widget that has to exist. -/
  targeted : Bool := false
deriving Repr, DecidableEq

/-- The enabled actions, in order. -/
abbrev Vocabulary := List ActionSpec

namespace Vocabulary

/-- The entry of an action. -/
def find? (vocabulary : Vocabulary) (action : Action) : Option ActionSpec :=
  List.find? (fun spec => decide (spec.action = action)) vocabulary

/-- Puts an entry in the place of the one for its action, or last. -/
def put (spec : ActionSpec) : Vocabulary → Vocabulary
  | [] => [spec]
  | other :: rest =>
    if other.action = spec.action then spec :: rest else other :: put spec rest

/-- The vocabulary that a list of entries builds, a repeated action keeping its last entry. -/
def ofSpecs (specs : List ActionSpec) : Vocabulary :=
  specs.foldl (fun vocabulary spec => put spec vocabulary) []

/-- All five actions. -/
def standard : Vocabulary := [
  { action := .addWidget
    handler := "add"
    summary := "Add a new widget of the given type to the dashboard."
    required := ["widgetType"]
    optional := ["title", "initialSettings", "feedbackToUser"] },
  { action := .openOrFocusWidget
    handler := "open_or_focus"
    summary := "Bring a widget of the given type to the front, adding one if none " ++
      "exists. Settings in initialSettings are applied to it."
    required := ["widgetType"]
    optional := ["targetWidgetId", "targetWidgetTitle", "initialSettings", "contextualHint",
      "feedbackToUser"] },
  { action := .updateWidgetSettings
    handler := "update"
    summary := "Change settings of one existing widget."
    required := ["targetWidgetId|targetWidgetTitle", "initialSettings"]
    optional := ["widgetType", "settingName", "settingValue", "feedbackToUser"]
    targeted := true },
  { action := .removeWidget
    handler := "remove"
    summary := "Remove one existing widget from the dashboard."
    required := ["targetWidgetId|targetWidgetTitle"]
    optional := ["widgetType", "feedbackToUser"]
    targeted := true },
  { action := .noop
    handler := "noop"
    summary := "Change nothing. Use when the request is unclear or not about the " ++
      "dashboard, and put a question or explanation in feedbackToUser."
    optional := ["feedbackToUser"] }]

end Vocabulary

end CommandBar
