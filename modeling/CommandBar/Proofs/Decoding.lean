/-
What is read can be written.

Rendering and reading are inverse on the values that have no name twice in an object
and no integer with too many digits.  Reading gives no other values: an object is
built by setting its members in turn, so a name that is repeated keeps one value, and
an integer is refused before it has too many digits.  So a value that was read comes
back from its text, whatever the text looked like that it was first read from.

The reader recurses on its fuel through values, elements and members at once, and so
does the proof.
-/
import CommandBar.Proofs.Rendering
import Mathlib.Data.List.Nodup
import Mathlib.Data.List.TakeWhile

namespace CommandBar

/-! ### Records that are built -/

namespace Fields

variable {α : Type}

theorem nodup_set {fields : Fields α} (h : (names fields).Nodup) (name : String) (value : α) :
    (names (set name value fields)).Nodup := by
  by_cases hmem : name ∈ names fields
  · rw [names_set_of_mem value hmem]
    exact h
  · rw [names_set_of_not_mem value hmem]
    simpa using List.Nodup.concat hmem h

theorem nodup_override {patch : Fields α} :
    ∀ {fields : Fields α}, (names fields).Nodup → (names (override fields patch)).Nodup := by
  induction patch with
  | nil =>
      intro fields h
      exact h
  | cons entry rest ih =>
      intro fields h
      exact ih (nodup_set h entry.1 entry.2)

/-- No name of a record that is built from pairs occurs twice. -/
theorem nodup_ofPairs (pairs : Fields α) : (names (ofPairs pairs)).Nodup :=
  nodup_override (by simp [names])

theorem mem_ofPairs {pairs : Fields α} {entry : String × α} (h : entry ∈ ofPairs pairs) :
    entry ∈ pairs :=
  (mem_override h).resolve_left (by simp)

end Fields

/-! ### Numbers that are read -/

/-- The value of some digits is bounded by their number. -/
theorem ofDigitChars_lt {ds : List Char} (hds : ∀ c ∈ ds, c.isDigit = true) :
    ∀ n, Nat.ofDigitChars 10 ds n < (n + 1) * 10 ^ ds.length := by
  induction ds with
  | nil =>
      intro n
      simp [Nat.ofDigitChars_nil]
  | cons c ds ih =>
      intro n
      have hdigit := Char.isDigit_iff_toNat.mp (hds c (by simp))
      have hnine : '9'.toNat = '0'.toNat + 9 := rfl
      have hvalue : 10 * n + (c.toNat - '0'.toNat) + 1 ≤ (n + 1) * 10 := by omega
      rw [Nat.ofDigitChars_cons, List.length_cons, Nat.pow_succ']
      calc Nat.ofDigitChars 10 ds (10 * n + (c.toNat - '0'.toNat))
          < (10 * n + (c.toNat - '0'.toNat) + 1) * 10 ^ ds.length :=
            ih (fun d hd => hds d (List.mem_cons_of_mem _ hd)) _
        _ ≤ (n + 1) * 10 * 10 ^ ds.length := Nat.mul_le_mul_right _ hvalue
        _ = (n + 1) * (10 * 10 ^ ds.length) := Nat.mul_assoc _ _ _

/-- A number is not longer than the digits that it is read from. -/
theorem length_toDigits_le {ds : List Char} (hds : ∀ c ∈ ds, c.isDigit = true) (hne : ds ≠ []) :
    (Nat.toDigits 10 (Nat.ofDigitChars 10 ds 0)).length ≤ ds.length := by
  rw [Nat.length_toDigits_le_iff (by decide) (List.length_pos_iff.mpr hne)]
  simpa using ofDigitChars_lt hds 0

namespace Json

theorem wholeDigits_isDigit {cs whole rest : List Char} (h : wholeDigits cs = (whole, rest)) :
    ∀ c ∈ whole, c.isDigit = true := by
  unfold wholeDigits at h
  split at h
  · simp only [Prod.mk.injEq] at h
    simp [← h.1]
  · rw [List.span_eq_takeWhile_dropWhile, Prod.mk.injEq] at h
    intro c hc
    exact List.mem_takeWhile_imp (h.1 ▸ hc)

theorem writable_of_readWord? {cs : List Char} {taken : Value × List Char}
    (h : readWord? cs = some taken) : Writable taken.1 := by
  have hwords : ∀ entry ∈ wordValues, Writable entry.2 := by
    intro entry hentry
    simp only [wordValues, List.mem_cons, List.not_mem_nil, or_false] at hentry
    rcases hentry with rfl | rfl | rfl | rfl | rfl | rfl
    · exact .null
    · exact .bool true
    · exact .bool false
    · exact .float _
    · exact .float _
    · exact .float _
  obtain ⟨entry, hentry, hfound⟩ := List.exists_of_findSome?_eq_some h
  simp only at hfound
  split at hfound
  · simp only [Option.some.injEq] at hfound
    exact hfound ▸ hwords entry hentry
  · simp at hfound

theorem writable_of_readNumber {cs rest : List Char} {v : Value}
    (h : readNumber cs = .ok (v, rest)) : Writable v := by
  have hsign : ∀ (negative : Bool) (n : Nat),
      (if negative = true then -(n : Int) else (n : Int)).natAbs = n := by
    intro negative n
    cases negative with
    | true => simp
    | false => simp
  unfold readNumber at h
  simp only at h
  split at h
  · simp at h
  · next whole more hne hwhole =>
      split at h
      · simp only [Except.ok.injEq, Prod.mk.injEq] at h
        exact h.1 ▸ .float _
      · split at h
        · simp only [Except.ok.injEq, Prod.mk.injEq] at h
          exact h.1 ▸ .float _
        · next hplaces =>
            split at h
            · simp at h
            · next hlimit =>
                simp only [Except.ok.injEq, Prod.mk.injEq] at h
                rw [← h.1]
                refine .int ?_
                have hnone : (fractionDigits more).1 = [] := not_not.mp hplaces
                have hshort := length_toDigits_le (wholeDigits_isDigit hwhole) hne
                rw [hsign, hnone, List.append_nil]
                exact Nat.le_trans hshort (Nat.le_of_not_lt hlimit)

/-! ### Values that are read -/

/-- What is read with so much fuel can be written. -/
structure ReadsWritable (fuel : Nat) : Prop where
  value : ∀ {cs rest v}, readValue fuel cs = .ok (v, rest) → Writable v
  items : ∀ {cs rest items}, readItems fuel cs = .ok (items, rest) → ∀ item ∈ items, Writable item
  members : ∀ {cs rest members}, readMembers fuel cs = .ok (members, rest) →
    ∀ member ∈ members, Writable member.2

namespace ReadsWritable

variable {fuel : Nat} {cs rest : List Char}

theorem value_succ (ih : ReadsWritable fuel) {v : Value}
    (h : readValue (fuel + 1) cs = .ok (v, rest)) : Writable v := by
  unfold readValue at h
  split at h
  -- a string
  · split at h
    · simp only [Except.ok.injEq, Prod.mk.injEq] at h
      exact h.1 ▸ .str _
    · simp at h
  -- a list
  · split at h
    · simp only [Except.ok.injEq, Prod.mk.injEq] at h
      exact h.1 ▸ .arr (by simp)
    · split at h
      · next items more hitems =>
          simp only [Except.ok.injEq, Prod.mk.injEq] at h
          exact h.1 ▸ .arr (ih.items hitems)
      · simp at h
  -- an object
  · split at h
    · simp only [Except.ok.injEq, Prod.mk.injEq] at h
      exact h.1 ▸ .obj (by simp [Fields.names]) (by simp)
    · split at h
      · next members more hmembers =>
          simp only [Except.ok.injEq, Prod.mk.injEq] at h
          refine h.1 ▸ .obj (Fields.nodup_ofPairs members) ?_
          intro member hmember
          exact ih.members hmembers member (Fields.mem_ofPairs hmember)
      · simp at h
  -- a word or a number
  · split at h
    · next taken hword =>
        simp only [Except.ok.injEq] at h
        subst h
        exact writable_of_readWord? hword
    · exact writable_of_readNumber h

theorem items_succ (ih : ReadsWritable fuel) {items : List Value}
    (h : readItems (fuel + 1) cs = .ok (items, rest)) : ∀ item ∈ items, Writable item := by
  unfold readItems at h
  split at h
  · simp at h
  · next item more hitem =>
      split at h
      · simp only [Except.ok.injEq, Prod.mk.injEq] at h
        rw [← h.1]
        exact List.forall_mem_singleton.mpr (ih.value hitem)
      · split at h
        · next others more' hothers =>
            simp only [Except.ok.injEq, Prod.mk.injEq] at h
            rw [← h.1]
            exact List.forall_mem_cons.mpr ⟨ih.value hitem, ih.items hothers⟩
        · simp at h
      · simp at h

theorem members_succ (ih : ReadsWritable fuel) {members : Fields Value}
    (h : readMembers (fuel + 1) cs = .ok (members, rest)) :
    ∀ member ∈ members, Writable member.2 := by
  unfold readMembers at h
  split at h
  · split at h
    · simp at h
    · split at h
      · split at h
        · simp at h
        · next value more hvalue =>
            split at h
            · simp only [Except.ok.injEq, Prod.mk.injEq] at h
              rw [← h.1]
              exact List.forall_mem_singleton.mpr (ih.value hvalue)
            · split at h
              · next others more' hothers =>
                  simp only [Except.ok.injEq, Prod.mk.injEq] at h
                  rw [← h.1]
                  exact List.forall_mem_cons.mpr ⟨ih.value hvalue, ih.members hothers⟩
              · simp at h
            · simp at h
      · simp at h
  · simp at h

theorem all (fuel : Nat) : ReadsWritable fuel := by
  induction fuel with
  | zero => exact ⟨by simp [readValue], by simp [readItems], by simp [readMembers]⟩
  | succ fuel ih => exact ⟨ih.value_succ, ih.items_succ, ih.members_succ⟩

end ReadsWritable

/-- **What is read can be written.** -/
theorem writable_of_read {text : String} {v : Value} (h : read text = .ok v) : Writable v := by
  unfold read readChars at h
  simp only at h
  split at h
  · simp [Except.mapError] at h
  · split at h
    · simp [Except.mapError] at h
    · next value rest hvalue =>
        split at h
        · simp only [Except.mapError, Except.ok.injEq] at h
          exact h ▸ (ReadsWritable.all _).value hvalue
        · simp [Except.mapError] at h

end Json

end CommandBar
