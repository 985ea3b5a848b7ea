/-
The gateway to the oracle.

Each utterance makes one query, and nothing is tried again.  The gateway composes
the prompt, chooses the schema, and accepts only a text that is not blank;
everything else becomes an error that says what came back instead.
-/
import CommandBar.Json.Writer
import CommandBar.OutputSchema
import CommandBar.Reply.Basic
import CommandBar.Text.Blank

namespace CommandBar

/-- What the oracle is asked. -/
structure Query where
  prompt : String
  /-- What the answer has to look like. -/
  schema : Json.Value
deriving DecidableEq

/-- The way to the oracle. -/
structure Gateway where
  /-- The schema of queries that bring none. -/
  schema : Json.Value := OutputSchema.standard

namespace Gateway

/-- The instructions, with what the user said behind them. -/
def prompt (instructions utterance : String) : String :=
  instructions ++ "\nUser command: " ++ utterance

/-- The query for an utterance; a schema without content counts as none. -/
def query (gateway : Gateway) (instructions utterance : String) (schema : Json.Value) : Query where
  prompt := prompt instructions utterance
  schema := if schema.isTruthy then schema else gateway.schema

/-- The error for a reply that is no text or a blank one. -/
def noText (v : Json.Value) : CommandError :=
  .ofKind .malformedEnvelope ("oracle returned no text payload (" ++ Json.literal v ++ ")")

/-- The text that the oracle sent. -/
def accept : Reply → Except CommandError String
  | .refused e => .error e
  | .crashed name message => .error (.ofKind .modelUnavailable (name ++ ": " ++ message))
  | .sent (.str s) => if Text.isAllBlank s then .error (noText (.str s)) else .ok s
  | .sent v => .error (noText v)

/-! ### What is accepted -/

/-- Exactly the texts that are not blank are accepted, and they stay as they are. -/
theorem accept_eq_ok_iff {reply : Reply} {s : String} :
    accept reply = .ok s ↔ reply = .sent (.str s) ∧ Text.isAllBlank s = false := by
  constructor
  · intro h
    unfold accept at h
    split at h
    · simp at h
    · simp at h
    · next t =>
      by_cases hb : Text.isAllBlank t = true
      · simp [hb] at h
      · simp only [hb, Bool.false_eq_true, if_false, Except.ok.injEq] at h
        subst h
        exact ⟨rfl, by simpa using hb⟩
    · simp at h
  · rintro ⟨rfl, hb⟩
    simp [accept, hb]

end Gateway

end CommandBar
