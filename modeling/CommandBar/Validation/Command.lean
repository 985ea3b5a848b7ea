/-
From an answer to a command.

The fields of the answer are read first, so a field of the wrong kind is reported
before anything about widgets.  Then the widget that the command is for is found,
the settings are checked against the blueprint of its type, and a command that
seems to have lost its key setting gets a warning.  The feedback is the oracle's
if there is one, with the warnings behind it.
-/
import CommandBar.Phrase.Search
import CommandBar.Validation.Answer
import CommandBar.Validation.Resolution
import CommandBar.Validation.Setting

namespace CommandBar

namespace Validation

open Json

/-- An answer with its fields read. -/
structure Request where
  spec : ActionSpec
  widgetType : Option String
  settings : Fields Value
  target : Option Target
  feedback : Option String
  title : Option String
  contextualHint : Option String

/-- Reads the fields of an answer. -/
def readRequest (answer : Answer) (vocabulary : Vocabulary) (catalog : Catalog) :
    Except Fault Request := do
  let spec ← answer.action vocabulary
  let widgetType ← answer.widgetType catalog
  let settings ← answer.settings
  let target ← answer.target
  let feedback ← answer.text "feedbackToUser"
  let title ← answer.text "title"
  let contextualHint ← answer.text "contextualHint"
  .ok { spec, widgetType, settings, target, feedback, title, contextualHint }

/-- The command of a request, before it has a target. -/
def Request.command (r : Request) : Command where
  action := r.spec.action
  feedback := r.feedback.getD ""
  widgetType := r.widgetType
  settings := if r.settings = [] then none else some r.settings
  title := r.title
  contextualHint := r.contextualHint

/-! ### Finding the target -/

/-- The command to open or focus a widget of a type.  A widget of the type that exists is
focused; otherwise a new one is opened, which an id cannot name, and which takes the title it is
called by unless it is given another. -/
def openOrFocus (r : Request) (type : String) (widgets : List Widget) : Except Fault Command :=
  let command := r.command
  match widgets.filter fun w => w.type == type with
  | [] =>
    match r.target with
    | some ⟨some id, title⟩ =>
      (Refusal.noSuchId type id (Target.describe ⟨some id, title⟩)).raise
    | some ⟨none, title⟩ => .ok { command with title := command.title.or title }
    | none => .ok command
  | existing => do
    let w ← Resolution.resolve r.target (some type) existing
    .ok { command with target := some w.target }

/-- The command for a widget that has to exist. -/
def targeted (r : Request) (widgets : List Widget) : Except Fault Command :=
  if r.spec.action = .updateWidgetSettings ∧ r.settings = [] then Refusal.noChange.raise
  else do
    let w ← Resolution.resolve r.target r.widgetType widgets
    .ok { r.command with target := some w.target, widgetType := some w.type }

/-- The command of a request, with the widget it is for. -/
def locate (r : Request) (widgets : List Widget) : Except Fault Command :=
  match r.spec.action, r.widgetType with
  | .addWidget, none => (Refusal.noType .addWidget).raise
  | .openOrFocusWidget, none => (Refusal.noType .openOrFocusWidget).raise
  | .openOrFocusWidget, some type => openOrFocus r type widgets
  | _, _ => if r.spec.targeted then targeted r widgets else .ok r.command

/-! ### Settings -/

/-- The command with its settings checked, if it sets any on a widget of a known type. -/
def checkSettings (c : Command) (catalog : Catalog) : Except Fault Command :=
  match c.settings, catalog.ofType? c.widgetType with
  | some patch, some b =>
    if c.action.setsSettings then do
      let checked ← Setting.check b patch
      .ok { c with settings := some checked }
    else .ok c
  | _, _ => .ok c

/-- What the user is told when a key setting seems to have been lost. -/
def keyWarning (b : Blueprint) : String :=
  "(No search term came through, so " ++ b.displayName ++ " opens without " ++
    "searching. Try \"search " ++ b.displayName ++ " for ...\".)"

/-- The key setting that the command could set and leaves out. -/
def missingKey? (c : Command) (catalog : Catalog) : Option (Blueprint × KeySetting) := do
  if !c.action.setsSettings then none
  let b ← catalog.ofType? c.widgetType
  let key ← b.keySetting
  if (Value.member c.patch key.name).isTruthy then none else some (b, key)

/-- The warnings about a key setting that is left out although the utterance asks for it. -/
def keyWarnings (c : Command) (utterance : String) (catalog : Catalog) :
    Except Fault (List String) :=
  match missingKey? c catalog with
  | none => .ok []
  | some (b, key) => do
    let templates ← key.intentPhrases.mapM Phrase.Template.ofText
    .ok (if templates.any fun t => (t.search? utterance).isSome then [keyWarning b] else [])

/-! ### Feedback -/

/-- How the type of a command is called. -/
def typeName (c : Command) (catalog : Catalog) : String :=
  if isGiven c.widgetType then catalog.displayName (c.widgetType.getD "") else "widget"

/-- How the target of a command is called, `None` without one. -/
def targetName (c : Command) : String :=
  match c.target with
  | some target => target.title.getD "None"
  | none => "None"

/-- What the user is told when the oracle says nothing. -/
def defaultFeedback (c : Command) (catalog : Catalog) : String :=
  match c.action with
  | .addWidget => "Adding " ++ typeName c catalog ++ "..."
  | .openOrFocusWidget =>
    if isGiven (c.target.bind (·.title)) then "Focusing " ++ targetName c ++ "..."
    else "Opening " ++ typeName c catalog ++ "..."
  | .updateWidgetSettings => "Updating " ++ targetName c ++ "..."
  | .removeWidget => "Removing " ++ targetName c ++ "..."
  | .noop => "I'm not sure what to change. Could you rephrase that?"

/-- The command with its feedback and its warnings. -/
def finish (c : Command) (warnings : List String) (catalog : Catalog) : Command :=
  let feedback := if c.feedback = "" then defaultFeedback c catalog else c.feedback
  { c with
    feedback := warnings.foldl (fun text warning => text ++ " " ++ warning) feedback
    warnings := warnings }

/-- The command that an answer stands for. -/
def validate (answer : Answer) (utterance : String) (widgets : List Widget)
    (vocabulary : Vocabulary) (catalog : Catalog) : Except Fault Command := do
  let request ← readRequest answer vocabulary catalog
  let located ← locate request widgets
  let checked ← checkSettings located catalog
  let warnings ← keyWarnings checked utterance catalog
  .ok (finish checked warnings catalog)

end Validation

end CommandBar
