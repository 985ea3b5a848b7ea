/-
Interpreting utterances.

An utterance becomes a query to the oracle, the reply becomes a command, and the
command is applied.  Between the query and the reply time passes, so the two
halves are functions of their own: `query?` looks at the dashboard as it is when
the utterance is made, and `conclude` validates and applies against the dashboard
as it is when the reply comes.

When the reply is there, and once more when something has failed, the interpreter
asks whether the interface is still open, and drops the result if it is not.  An
error of the pipeline is an outcome; other faults pass through.
-/
import CommandBar.Gateway
import CommandBar.Log
import CommandBar.Prompt
import CommandBar.Reply.Payload
import CommandBar.Validation.Command

namespace CommandBar

/-- The answers to whether the interface is still open, each time it is asked.  The last one
stays, and without any it is open. -/
abbrev Liveness := List Bool

/-- Asks once. -/
def Liveness.ask : Liveness → Bool × Liveness
  | [] => (true, [])
  | [answer] => (answer, [answer])
  | answer :: rest => (answer, rest)

/-- What came of an utterance. -/
structure Interpretation where
  /-- The outcome, none if it was dropped. -/
  result : Except Fault (Option Outcome)
  host : Host
  /-- The lines that were printed. -/
  printed : List String := []

namespace Interpretation

/-- What the log gets: an entry, unless the fault of something else passed through. -/
def entry (time : String) (u : Utterance) (i : Interpretation) : String :=
  match i.result with
  | .ok outcome => Log.entry time u outcome
  | .error _ => ""

end Interpretation

/-- What turns utterances into changes. -/
structure Interpreter where
  vocabulary : Vocabulary
  catalog : Catalog
  dispatcher : Dispatcher

namespace Interpreter

/-- The interpreter for a vocabulary and a catalog. -/
def ofVocabulary (vocabulary : Vocabulary) (catalog : Catalog) : Except Fault Interpreter := do
  let dispatcher ← Dispatcher.ofVocabulary vocabulary
  .ok { vocabulary, catalog, dispatcher }

/-- The interpreter for the standard vocabulary and catalog. -/
def standard : Interpreter where
  vocabulary := .standard
  catalog := .standard
  dispatcher := .standard

/-- The line about a failure. -/
def failureLine (kind : ErrorKind) (note : String) : String :=
  "  [" ++ kind.name ++ "] " ++ note

/-! ### Before the reply -/

/-- What the oracle is told about a dashboard. -/
def instructions (i : Interpreter) (widgets : List Widget) : String :=
  Prompt.instructions widgets i.vocabulary i.catalog

/-- The query that an utterance makes; a blank one makes none. -/
def query? (i : Interpreter) (u : Utterance) (widgets : List Widget) :
    Except CommandError Query :=
  if Text.isAllBlank u.text then .error (.ofKind .input "empty utterance")
  else
    .ok (Gateway.query {} (i.instructions widgets) u.text
      (OutputSchema.ofVocabulary i.vocabulary i.catalog))

/-! ### After the reply -/

/-- The command in the text of a reply. -/
def command (i : Interpreter) (u : Utterance) (raw : String) (widgets : List Widget) :
    Except Fault Command :=
  match Reply.payload raw with
  | .error e => .error (.command e)
  | .ok answer => Validation.validate answer u.text widgets i.vocabulary i.catalog

/-- Applies a command. -/
def apply (i : Interpreter) (c : Command) (host : Host) : Interpretation :=
  let (outcome, host) := i.dispatcher.dispatch c host
  let failure :=
    match outcome with
    | .applied _ => []
    | .failed kind feedback => [failureLine kind feedback]
  { result := .ok (some outcome), host
    printed := c.warnings.map (fun w => "  [warning] " ++ w) ++ failure }

/-- Reports an error, if the interface is still open. -/
def report (e : CommandError) (live : Liveness) (host : Host) : Interpretation where
  result := .ok (if live.ask.1 then some (.failed e.kind e.feedback) else none)
  host := host
  printed := [failureLine e.kind e.note]

/-- Interprets the reply to the query of an utterance. -/
def conclude (i : Interpreter) (u : Utterance) (live : Liveness) (reply : Reply) (host : Host) :
    Interpretation :=
  match Gateway.accept reply with
  | .error e => report e live host
  | .ok raw =>
    match live.ask with
    | (false, _) =>
      { result := .ok none, host, printed := ["  (interface closed, dropping result)"] }
    | (true, live) =>
      match i.command u raw host.widgets with
      | .error (.command e) => report e live host
      | .error fault => { result := .error fault, host }
      | .ok c => i.apply c host

/-! ### Both at once -/

/-- Interprets an utterance with an oracle that replies at once, and says what it was asked. -/
def interpret (i : Interpreter) (u : Utterance) (live : Liveness) (oracle : Query → Reply)
    (host : Host) : Option Query × Interpretation :=
  match i.query? u host.widgets with
  | .error e => (none, report e live host)
  | .ok query => (some query, i.conclude u live (oracle query) host)

end Interpreter

end CommandBar
