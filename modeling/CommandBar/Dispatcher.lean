/-
Applying commands.

Every enabled action has a handler of its own, and a handler turns a command into
at most one change.  The table of handlers answers to a name as well, but a command
that is handed to it always fails.  A change that the host refuses or that fails
makes a failed outcome; dispatching itself always has an outcome.
-/
import CommandBar.Command
import CommandBar.Host

namespace CommandBar

/-- How a command turns into a change. -/
inductive Handler
  | add
  | openOrFocus
  | update
  | remove
  | noop
  /-- The table of handlers itself, which has a name as they have but handles nothing. -/
  | table
deriving Repr, DecidableEq

namespace Handler

/-- The name by which a vocabulary refers to the handler. -/
def name : Handler → String
  | .add => "add"
  | .openOrFocus => "open_or_focus"
  | .update => "update"
  | .remove => "remove"
  | .noop => "noop"
  | .table => "handlers"

/-- Every handler. -/
def all : List Handler :=
  [.add, .openOrFocus, .update, .remove, .noop, .table]

/-- The handler of that name. -/
def ofName? (s : String) : Option Handler :=
  all.find? (·.name == s)

/-- The change that adds the widget of a command, under its title if it has one. -/
def addition (c : Command) : Change :=
  .add c.widgetType c.settings (if isGiven c.title then c.title else none)

/-- The change that a command asks for, none if it asks for nothing. -/
def change? : Handler → Command → Except Fault (Option Change)
  | .add, c => .ok (some (addition c))
  | .openOrFocus, c =>
    match c.target with
    | none => .ok (some (addition c))
    | some target => .ok (some (.focus target.id (if c.patch = [] then none else c.settings)))
  | .update, c =>
    match c.target with
    | none => .error .noTarget
    | some target => .ok (some (.update target.id c.settings))
  | .remove, c =>
    match c.target with
    | none => .error .noTarget
    | some target => .ok (some (.remove target.id))
  | .noop, _ => .ok none
  | .table, _ => .error .tableAsHandler

end Handler

/-- What became of a command. -/
inductive Outcome
  /-- The command was applied. -/
  | applied (command : Command)
  /-- It was not, for a reason of that kind, and the user is told so. -/
  | failed (kind : ErrorKind) (feedback : String)
deriving DecidableEq

namespace Outcome

/-- What the user is told. -/
def feedback : Outcome → String
  | .applied c => c.feedback
  | .failed _ feedback => feedback

/-- The kind of the failure. -/
def kind? : Outcome → Option ErrorKind
  | .applied _ => none
  | .failed kind _ => some kind

/-- The command that was applied. -/
def command? : Outcome → Option Command
  | .applied c => some c
  | .failed _ _ => none

/-- The outcome of a command whose action is not enabled. -/
def notEnabled : Outcome :=
  .failed .rejected ErrorKind.rejected.defaultFeedback

/-- The outcome of a command that fails while it is applied.  Only a refusal brings feedback of
its own. -/
def ofFault : Fault → Outcome
  | .command ⟨.rejected, _, feedback⟩ => .failed .rejected feedback
  | fault => .failed .rejected (ErrorKind.rejected.defaultFeedback ++ " " ++ fault.text)

end Outcome

/-- The handlers of the enabled actions. -/
structure Dispatcher where
  handlers : List (Action × Handler)
deriving DecidableEq

namespace Dispatcher

/-- Enters the actions of a vocabulary, each with a handler that no action before it has. -/
def enter : List (Action × Handler) → Vocabulary → Except Fault (List (Action × Handler))
  | entered, [] => .ok entered
  | entered, spec :: rest =>
    match Handler.ofName? spec.handler with
    | none => .error (.sharedHandler spec.action.name spec.handler)
    | some handler =>
      if handler ∈ entered.map Prod.snd then
        .error (.sharedHandler spec.action.name spec.handler)
      else enter (entered ++ [(spec.action, handler)]) rest

/-- The dispatcher for a vocabulary. -/
def ofVocabulary (vocabulary : Vocabulary) : Except Fault Dispatcher := do
  .ok ⟨← enter [] vocabulary⟩

/-- The dispatcher for the standard vocabulary. -/
def standard : Dispatcher where
  handlers := [(.addWidget, .add), (.openOrFocusWidget, .openOrFocus),
    (.updateWidgetSettings, .update), (.removeWidget, .remove), (.noop, .noop)]

theorem ofVocabulary_standard : ofVocabulary .standard = .ok standard := by
  rfl

/-- The handler of an action. -/
def handler? (d : Dispatcher) (action : Action) : Option Handler :=
  d.handlers.lookup action

/-- Applies a command with a handler. -/
def run (handler : Handler) (c : Command) (host : Host) : Outcome × Host :=
  match handler.change? c with
  | .error fault => (.ofFault fault, host)
  | .ok none => (.applied c, host)
  | .ok (some change) =>
    match host.perform change with
    | (.error fault, host) => (.ofFault fault, host)
    | (.ok _, host) => (.applied c, host)

/-- Applies a command. -/
def dispatch (d : Dispatcher) (c : Command) (host : Host) : Outcome × Host :=
  match d.handler? c.action with
  | none => (.notEnabled, host)
  | some handler => run handler c host

/-- Applies a command whose action is given by name. -/
def dispatchNamed (d : Dispatcher) (name : String) (c : Command) (host : Host) :
    Outcome × Host :=
  match Action.ofName? name with
  | none => (.notEnabled, host)
  | some action => d.dispatch { c with action } host

end Dispatcher

end CommandBar
