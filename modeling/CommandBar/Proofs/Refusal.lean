/-
What can stop a step of validation.

`StopsWith` says of a step which faults can stop it, and it passes from the parts
of a step to the whole, so each function needs a line for each of its own branches
and nothing for the functions it calls.  Most steps of the validator stop for one
reason only, that they refuse what they read.  Which step has refused can be told
from the refusal: there are three stages, and each step belongs to one.  The two
lemmas about `>>=` are what takes a step apart.
-/
import CommandBar.Validation.Refusal

namespace CommandBar

/-! ### Taking a step apart -/

section Bind

variable {ε α β : Type}

theorem bind_eq_ok_iff {x : Except ε α} {f : α → Except ε β} {b : β} :
    (x >>= f) = .ok b ↔ ∃ a, x = .ok a ∧ f a = .ok b := by
  cases x with
  | error e => simp [bind, Except.bind]
  | ok a => simp [bind, Except.bind]

theorem bind_eq_error_iff {x : Except ε α} {f : α → Except ε β} {e : ε} :
    (x >>= f) = .error e ↔ x = .error e ∨ ∃ a, x = .ok a ∧ f a = .error e := by
  cases x with
  | error e' => simp [bind, Except.bind]
  | ok a => simp [bind, Except.bind]

/-- What stops a row of steps stops one of them. -/
theorem mapM_error {f : α → Except ε β} {as : List α} {e : ε} (h : as.mapM f = .error e) :
    ∃ a ∈ as, f a = .error e := by
  induction as with
  | nil => simp [pure, Except.pure] at h
  | cons a rest ih =>
      rw [List.mapM_cons] at h
      rcases bind_eq_error_iff.mp h with ha | ⟨b, -, h⟩
      · exact ⟨a, by simp, ha⟩
      · rcases bind_eq_error_iff.mp h with hrest | ⟨bs, -, hpure⟩
        · obtain ⟨a', ha', hstop⟩ := ih hrest
          exact ⟨a', List.mem_cons_of_mem _ ha', hstop⟩
        · simp [pure, Except.pure] at hpure

/-- A row of steps none of which stops does not stop. -/
theorem mapM_ok_of_forall {f : α → Except ε β} {as : List α} (h : ∀ a ∈ as, ∃ b, f a = .ok b) :
    ∃ bs, as.mapM f = .ok bs := by
  cases hrow : as.mapM f with
  | ok bs => exact ⟨bs, rfl⟩
  | error e =>
      obtain ⟨a, ha, hstop⟩ := mapM_error hrow
      obtain ⟨b, hb⟩ := h a ha
      simp [hb] at hstop

/-- What comes of a row of steps is what comes of each of them. -/
theorem mem_of_mapM_ok {f : α → Except ε β} {as : List α} {bs : List β} (h : as.mapM f = .ok bs)
    {b : β} : b ∈ bs ↔ ∃ a ∈ as, f a = .ok b := by
  induction as generalizing bs with
  | nil =>
      simp only [List.mapM_nil, pure, Except.pure, Except.ok.injEq] at h
      simp [← h]
  | cons a rest ih =>
      rw [List.mapM_cons] at h
      obtain ⟨first, hfirst, h⟩ := bind_eq_ok_iff.mp h
      obtain ⟨others, hothers, h⟩ := bind_eq_ok_iff.mp h
      simp only [pure, Except.pure, Except.ok.injEq] at h
      simp [← h, ih hothers, hfirst, eq_comm]

end Bind

/-! ### What stops a step -/

section StopsWith

variable {α β : Type} {P : Fault → Prop}

/-- Whatever stops the step is a fault of that sort. -/
def StopsWith (P : Fault → Prop) (x : Except Fault α) : Prop :=
  ∀ fault, x = .error fault → P fault

theorem StopsWith.ok (a : α) : StopsWith P (.ok a) := by
  intro fault h
  simp at h

theorem StopsWith.error {fault : Fault} (h : P fault) :
    StopsWith P (.error fault : Except Fault α) := by
  intro fault' h'
  simp only [Except.error.injEq] at h'
  exact h' ▸ h

theorem StopsWith.imp {Q : Fault → Prop} {x : Except Fault α} (h : StopsWith P x)
    (himp : ∀ fault, P fault → Q fault) : StopsWith Q x := by
  intro fault hfault
  exact himp fault (h fault hfault)

theorem StopsWith.bind {x : Except Fault α} {f : α → Except Fault β} (hx : StopsWith P x)
    (hf : ∀ a, x = .ok a → StopsWith P (f a)) : StopsWith P (x >>= f) := by
  intro fault h
  rcases bind_eq_error_iff.mp h with he | ⟨a, ha, hfa⟩
  · exact hx fault he
  · exact hf a ha fault hfa

end StopsWith

/-! ### Steps that only refuse -/

namespace Refusal

/-- Where in validation an answer is refused. -/
inductive Stage
  /-- Where the action is read. -/
  | action
  /-- Where another field is read. -/
  | field
  /-- Behind, where the command of the fields is located and its settings are checked. -/
  | command
deriving DecidableEq

/-- The stage that a refusal comes from. -/
def stage : Refusal → Stage
  | .unknownAction _ | .disabledAction _ => .action
  | .notText _ _ | .unknownType _ | .unreadableSettings _ | .settingsText | .settingsKind _ =>
    .field
  | _ => .command

/-- Only the action makes a refusal an error of its kind. -/
theorem kind_eq_unknownAction_iff (r : Refusal) :
    r.error.kind = .unknownAction ↔ r.stage = .action := by
  cases r <;> simp [error, kind, stage]

end Refusal

/-- The fault is a refusal of that stage. -/
def Fault.IsRefusal (stage : Refusal.Stage) (fault : Fault) : Prop :=
  ∃ r : Refusal, r.stage = stage ∧ fault = .command r.error

/-- Whatever stops the step is a refusal of that stage. -/
def RefusesAt {α : Type} (stage : Refusal.Stage) (x : Except Fault α) : Prop :=
  StopsWith (Fault.IsRefusal stage) x

namespace RefusesAt

variable {α β : Type} {stage : Refusal.Stage}

theorem ok (a : α) : RefusesAt stage (.ok a) :=
  StopsWith.ok a

theorem raise (r : Refusal) : RefusesAt r.stage (r.raise : Except Fault α) :=
  StopsWith.error ⟨r, rfl, rfl⟩

theorem bind {x : Except Fault α} {f : α → Except Fault β} (hx : RefusesAt stage x)
    (hf : ∀ a, x = .ok a → RefusesAt stage (f a)) : RefusesAt stage (x >>= f) :=
  StopsWith.bind hx hf

end RefusesAt

namespace Refusal

@[simp] theorem raise_ne_ok {α : Type} (r : Refusal) (a : α) :
    (r.raise : Except Fault α) ≠ .ok a := by
  simp [raise]

/-- No refusal of an answer is reported as a refusal of the dashboard. -/
theorem kind_ne_rejected (r : Refusal) : r.error.kind ≠ .rejected := by
  cases r <;> simp [error, kind]

end Refusal

end CommandBar
