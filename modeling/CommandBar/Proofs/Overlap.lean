/-
Utterances that overlap.

Several utterances can be on their way at once.  Each of them is a call with a
number, and a call does two things: it makes its query, about the dashboard as it
is then, and when the oracle has answered it goes on to its end.  In between the
other calls do the same, so the dashboard may have changed any number of times.

A schedule is a row of numbers, each a turn for that call.  What comes of it is
what comes of the same utterances one after another, in the order in which they
end.  The reason is that the second turn of a call looks at nothing but the reply
and the dashboard as it is now: the answer is validated for the widgets on it and
applied to it, and the query is not looked at again.
-/
import CommandBar.Proofs.Run
import Mathlib.Data.List.Induction
import Mathlib.Logic.Function.Basic

namespace CommandBar

/-- An utterance, and what the oracle will reply to its query. -/
structure Request where
  utterance : Utterance
  reply : Reply

namespace Request

/-- The request on its own: nobody can close the interface, and the reply is the same whatever
the oracle is asked. -/
def exchange (r : Request) : Exchange where
  utterance := r.utterance
  live := []
  oracle := fun _ => r.reply

/-- The number of turns that the request takes: a blank one ends at once, any other waits for its
reply. -/
def turns (r : Request) : Nat :=
  if Text.isAllBlank r.utterance.text then 1 else 2

end Request

/-- How far a call has come. -/
inductive Stage
  | unbegun
  /-- Its query is made. -/
  | asking (query : Query)
  | ended (result : Except Fault (Option Outcome))

/-- Whether a call is that far after so many turns. -/
def Stage.Fits (r : Request) (turns : Nat) : Stage → Prop
  | .unbegun => turns = 0
  | .asking _ => turns = 1 ∧ r.turns = 2
  | .ended _ => r.turns ≤ turns

/-- A host, and the calls that are at work on it. -/
structure Overlap where
  host : Host
  stage : Nat → Stage := fun _ => .unbegun

/-- Ends a call with what the interpreter made of it. -/
def Overlap.settle (o : Overlap) (n : Nat) (done : Interpretation) : Overlap where
  host := done.host
  stage := Function.update o.stage n (.ended done.result)

namespace Interpreter

/-- A turn of a call.  The first one makes its query, or ends it if there is nothing to ask; the
second one ends it with the reply. -/
def advance (i : Interpreter) (requests : Nat → Request) (o : Overlap) (n : Nat) : Overlap :=
  let r := requests n
  match o.stage n with
  | .unbegun =>
    match i.query? r.utterance o.host.widgets with
    | .error e => o.settle n (report e [] o.host)
    | .ok query => { o with stage := Function.update o.stage n (.asking query) }
  | .asking _ => o.settle n (i.conclude r.utterance [] r.reply o.host)
  | .ended _ => o

/-- What a schedule comes to. -/
def overlap (i : Interpreter) (requests : Nat → Request) (host : Host) (schedule : List Nat) :
    Overlap :=
  schedule.foldl (i.advance requests) { host }

end Interpreter

/-- The calls that end in a schedule, in that order; `before` are the turns there have been.  A
call ends with the last turn that its request takes, whatever is on the dashboard. -/
def endings (requests : Nat → Request) : List Nat → List Nat → List Nat
  | _, [] => []
  | before, n :: rest =>
    if before.count n + 1 = (requests n).turns then n :: endings requests (n :: before) rest
    else endings requests (n :: before) rest

section Endings

variable {requests : Nat → Request}

theorem endings_concat (schedule : List Nat) (n : Nat) : ∀ before : List Nat,
    endings requests before (schedule ++ [n]) =
      endings requests before schedule ++
        if before.count n + schedule.count n + 1 = (requests n).turns then [n] else [] := by
  induction schedule with
  | nil => intro before; simp [endings]
  | cons m rest ih =>
      intro before
      have hcount : (m :: before).count n + rest.count n =
          before.count n + (m :: rest).count n := by
        simp only [List.count_cons]
        omega
      rw [List.cons_append, endings, endings, ih, hcount]
      split
      · rfl
      · rfl

theorem endings_snoc (schedule : List Nat) (n : Nat) :
    endings requests [] (schedule ++ [n]) =
      endings requests [] schedule ++
        if schedule.count n + 1 = (requests n).turns then [n] else [] := by
  rw [endings_concat]
  simp

/-- A call has ended when it has had all its turns. -/
theorem mem_endings_iff {schedule : List Nat} {n : Nat} :
    n ∈ endings requests [] schedule ↔ (requests n).turns ≤ schedule.count n := by
  induction schedule using List.reverseRecOn with
  | nil =>
      have hpos : 0 < (requests n).turns := by
        unfold Request.turns
        split <;> omega
      simp [endings]
      omega
  | append_singleton front m ih =>
      rw [endings_snoc, List.mem_append, ih, List.count_append, List.count_singleton]
      by_cases hm : m = n
      · subst hm
        split
        · simp; omega
        · simp; omega
      · split <;> simp [hm, Ne.symm hm]

end Endings

namespace Interpreter

/-- What the row of calls comes to when they are made one after another. -/
def inTurn (i : Interpreter) (requests : Nat → Request) (host : Host) (calls : List Nat) : Host :=
  i.run host (calls.map fun n => (requests n).exchange)

section Turns

variable {i : Interpreter} {requests : Nat → Request} {host : Host} {schedule : List Nat} {n : Nat}

theorem overlap_snoc (i : Interpreter) (requests : Nat → Request) (host : Host)
    (schedule : List Nat) (n : Nat) :
    i.overlap requests host (schedule ++ [n]) =
      i.advance requests (i.overlap requests host schedule) n :=
  List.foldl_concat ..

theorem inTurn_snoc (i : Interpreter) (requests : Nat → Request) (host : Host)
    (calls : List Nat) (n : Nat) :
    i.inTurn requests host (calls ++ [n]) =
      i.step (i.inTurn requests host calls) (requests n).exchange := by
  simp [inTurn, run]

/-- A request on its own takes one turn if its text is blank, and then it has no use for the
reply. -/
theorem interpret_exchange (i : Interpreter) (r : Request) (host : Host) :
    (r.turns = 1 ∧ ∃ e, i.query? r.utterance host.widgets = .error e ∧
        (i.interpret r.utterance [] r.exchange.oracle host).2 = report e [] host) ∨
      r.turns = 2 ∧ ∃ query, i.query? r.utterance host.widgets = .ok query ∧
        (i.interpret r.utterance [] r.exchange.oracle host).2 =
          i.conclude r.utterance [] r.reply host := by
  unfold interpret query? Request.turns
  cases Text.isAllBlank r.utterance.text with
  | true => simp
  | false => simp [Request.exchange]

/-! ### A schedule against one call after another -/

/-- What holds of a schedule.  The outcome of a call is the one it has behind those that end
before it. -/
structure Serial (i : Interpreter) (requests : Nat → Request) (host : Host) (schedule : List Nat)
    (o : Overlap) : Prop where
  host_eq : o.host = i.inTurn requests host (endings requests [] schedule)
  fits : ∀ n, (o.stage n).Fits (requests n) (schedule.count n)
  outcome : ∀ front n back, endings requests [] schedule = front ++ n :: back →
    o.stage n = .ended (i.interpret (requests n).utterance [] (requests n).exchange.oracle
      (i.inTurn requests host front)).2.result

variable {o : Overlap}

/-- The last turn of a call comes to what the call comes to on its own. -/
theorem Serial.settle (h : Serial i requests host schedule o)
    (hlast : schedule.count n + 1 = (requests n).turns) :
    Serial i requests host (schedule ++ [n])
      (o.settle n
        (i.interpret (requests n).utterance [] (requests n).exchange.oracle o.host).2) := by
  have hendings : endings requests [] (schedule ++ [n]) = endings requests [] schedule ++ [n] := by
    rw [endings_snoc, if_pos hlast]
  constructor
  case host_eq =>
    rw [hendings, inTurn_snoc, ← h.host_eq]
    rfl
  case fits =>
    intro m
    by_cases hm : m = n
    · subst hm
      simp [Overlap.settle, Stage.Fits, List.count_append, hlast]
    · simpa [Overlap.settle, hm, List.count_append, Ne.symm hm] using h.fits m
  case outcome =>
    intro front m back hsplit
    rw [hendings] at hsplit
    rcases List.eq_nil_or_concat' back with rfl | ⟨back, last, rfl⟩
    · -- the call is the one that ends now
      obtain ⟨rfl, hm⟩ := List.append_inj' hsplit rfl
      obtain rfl : n = m := List.singleton_inj.mp hm
      simp [Overlap.settle, h.host_eq]
    · rw [← List.cons_append, ← List.append_assoc] at hsplit
      obtain ⟨hbefore, -⟩ := List.append_inj' hsplit rfl
      have hended : m ∈ endings requests [] schedule := by simp [hbefore]
      have hm : m ≠ n := by
        rintro rfl
        rw [mem_endings_iff] at hended
        omega
      simpa [Overlap.settle, hm] using h.outcome front m back hbefore

/-- The query of a call changes nothing for the others. -/
theorem Serial.ask (h : Serial i requests host schedule o) (hfirst : o.stage n = .unbegun)
    (htwo : (requests n).turns = 2) (query : Query) :
    Serial i requests host (schedule ++ [n])
      { o with stage := Function.update o.stage n (.asking query) } := by
  have hcount : schedule.count n = 0 := by
    have hfits := h.fits n
    rwa [hfirst] at hfits
  have hendings : endings requests [] (schedule ++ [n]) = endings requests [] schedule := by
    rw [endings_snoc, if_neg (by omega), List.append_nil]
  constructor
  case host_eq =>
    rw [hendings]
    exact h.host_eq
  case fits =>
    intro m
    by_cases hm : m = n
    · subst hm
      simp [Stage.Fits, List.count_append, hcount, htwo]
    · simpa [hm, List.count_append, Ne.symm hm] using h.fits m
  case outcome =>
    intro front m back hsplit
    rw [hendings] at hsplit
    have hended := h.outcome front m back hsplit
    have hm : m ≠ n := by
      rintro rfl
      rw [hfirst] at hended
      simp at hended
    simpa [hm] using hended

/-- A call that has ended takes no more turns. -/
theorem Serial.pass (h : Serial i requests host schedule o) {result : Except Fault (Option Outcome)}
    (hstage : o.stage n = .ended result) : Serial i requests host (schedule ++ [n]) o := by
  have hended : (requests n).turns ≤ schedule.count n := by
    have hfits := h.fits n
    rwa [hstage] at hfits
  have hendings : endings requests [] (schedule ++ [n]) = endings requests [] schedule := by
    rw [endings_snoc, if_neg (by omega), List.append_nil]
  constructor
  case host_eq =>
    rw [hendings]
    exact h.host_eq
  case fits =>
    intro m
    by_cases hm : m = n
    · subst hm
      simp [hstage, Stage.Fits, List.count_append]
      omega
    · simpa [List.count_append, Ne.symm hm] using h.fits m
  case outcome =>
    rw [hendings]
    exact h.outcome

/-- A turn keeps it. -/
theorem Serial.advance (h : Serial i requests host schedule o) (n : Nat) :
    Serial i requests host (schedule ++ [n]) (i.advance requests o n) := by
  have hfits := h.fits n
  unfold Interpreter.advance
  cases hstage : o.stage n with
  | unbegun =>
      rw [hstage] at hfits
      rcases interpret_exchange i (requests n) o.host with
        ⟨hone, e, hquery, hreport⟩ | ⟨htwo, query, hquery, -⟩
      · simp only [hquery, ← hreport]
        exact h.settle (by rw [hfits, hone])
      · simp only [hquery]
        exact h.ask hstage htwo query
  | asking query =>
      rw [hstage] at hfits
      obtain ⟨hcount, hturns⟩ := hfits
      rcases interpret_exchange i (requests n) o.host with ⟨hone, -⟩ | ⟨-, -, -, hconclude⟩
      · omega
      · simp only [← hconclude]
        exact h.settle (by rw [hcount, hturns])
  | ended result => exact h.pass hstage

theorem overlap_serial (i : Interpreter) (requests : Nat → Request) (host : Host)
    (schedule : List Nat) :
    Serial i requests host schedule (i.overlap requests host schedule) := by
  induction schedule using List.reverseRecOn with
  | nil => exact ⟨rfl, fun _ => rfl, by simp [endings]⟩
  | append_singleton front n ih =>
      rw [overlap_snoc]
      exact ih.advance n

/-! ### What a reply is applied to -/

/-- The second turn of a call applies a command that is valid for the widgets there are at that
turn, or it applies none and calls no hook. -/
theorem advance_asking {query : Query} (hstage : o.stage n = .asking query) :
    (∃ raw c, Gateway.accept (requests n).reply = .ok raw ∧
        i.command (requests n).utterance raw o.host.widgets = .ok c ∧
        (i.advance requests o n).host = (i.dispatcher.dispatch c o.host).2 ∧
        (i.advance requests o n).stage n =
          .ended (.ok (some (i.dispatcher.dispatch c o.host).1))) ∨
      (i.advance requests o n).host = o.host ∧
        ∀ c, (i.advance requests o n).stage n ≠ .ended (.ok (some (.applied c))) := by
  have hadvance : i.advance requests o n =
      o.settle n (i.conclude (requests n).utterance [] (requests n).reply o.host) := by
    simp only [Interpreter.advance, hstage]
  rw [hadvance]
  have hends := conclude_concludes i (requests n).utterance [] (requests n).reply o.host
  generalize i.conclude (requests n).utterance [] (requests n).reply o.host = done at hends
  cases hends with
  | @reported e live' origin =>
      refine Or.inr ⟨rfl, fun c => ?_⟩
      simpa [Overlap.settle] using report_ne_applied e live' o.host c
  | dropped => exact Or.inr ⟨rfl, by simp [Overlap.settle]⟩
  | passed => exact Or.inr ⟨rfl, by simp [Overlap.settle]⟩
  | @dispatched raw c sent stays valid =>
      exact Or.inl ⟨raw, c, sent, valid, rfl, by simp [Overlap.settle, Interpreter.apply]⟩

end Turns

/-- **Utterances that overlap come to what they come to one after another**, in the order in which
they end: the host, with its dashboard and the hooks that were called, and the outcome of every
call.  Which calls have ended, and in which order, is a matter of the schedule and of which texts
are blank.  A command is always validated for the widgets of the dashboard that it is applied to,
never for those that its query was about. -/
theorem overlap_serializable (i : Interpreter) (requests : Nat → Request) (host : Host)
    (schedule : List Nat) :
    (i.overlap requests host schedule).host =
        i.inTurn requests host (endings requests [] schedule) ∧
      (∀ n, (∃ result, (i.overlap requests host schedule).stage n = .ended result) ↔
        n ∈ endings requests [] schedule) ∧
      (∀ front n back, endings requests [] schedule = front ++ n :: back →
        (i.overlap requests host schedule).stage n =
          .ended (i.interpret (requests n).utterance [] (requests n).exchange.oracle
            (i.inTurn requests host front)).2.result) ∧
      ∀ front n back query, schedule = front ++ n :: back →
        (i.overlap requests host front).stage n = .asking query →
        (∃ raw c, Gateway.accept (requests n).reply = .ok raw ∧
          i.command (requests n).utterance raw (i.overlap requests host front).host.widgets =
            .ok c ∧
          (i.overlap requests host (front ++ [n])).host =
            (i.dispatcher.dispatch c (i.overlap requests host front).host).2 ∧
          (i.overlap requests host (front ++ [n])).stage n =
            .ended (.ok (some (i.dispatcher.dispatch c
              (i.overlap requests host front).host).1))) ∨
        (i.overlap requests host (front ++ [n])).host = (i.overlap requests host front).host ∧
          ∀ c, (i.overlap requests host (front ++ [n])).stage n ≠
            .ended (.ok (some (.applied c))) := by
  have hserial := overlap_serial i requests host schedule
  refine ⟨hserial.host_eq, ?_, hserial.outcome, ?_⟩
  · intro n
    constructor
    · rintro ⟨result, hstage⟩
      have hfits := hserial.fits n
      rw [hstage] at hfits
      exact mem_endings_iff.mpr hfits
    · intro hended
      obtain ⟨front, back, hsplit⟩ := List.append_of_mem hended
      exact ⟨_, hserial.outcome front n back hsplit⟩
  · intro front n back query hsplit hstage
    rw [overlap_snoc]
    exact advance_asking hstage

end Interpreter

end CommandBar
