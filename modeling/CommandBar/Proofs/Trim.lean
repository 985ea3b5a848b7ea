/-
What trimming leaves.

A text is trimmed when neither end of it is unwanted.  Trimming makes a text so, it
takes nothing but unwanted characters, and a text that is so already stays as it is.
The end is looked at through `List.rdropWhile`, which drops from a list what
`dropEndWhile` does.
-/
import CommandBar.Text.Blank
import Mathlib.Data.List.DropRight

namespace CommandBar

namespace Text

/-- No end of the text is blank. -/
structure Trimmed (cs : List Char) : Prop where
  /-- The first character is not blank. -/
  front : ∀ c ∈ cs.head?, isBlank c = false
  /-- The last character is not blank. -/
  back : ∀ c ∈ cs.getLast?, isBlank c = false

/-! ### Dropping at the end -/

theorem dropEndWhile_concat (p : Char → Bool) (cs : List Char) (c : Char) :
    dropEndWhile p (cs ++ [c]) = if p c then dropEndWhile p cs else cs ++ [c] := by
  induction cs with
  | nil => simp [dropEndWhile]
  | cons d rest ih =>
      simp only [List.cons_append, dropEndWhile, ih]
      by_cases hc : p c = true
      · simp [hc]
      · simp [hc]

theorem dropEndWhile_eq_rdropWhile (p : Char → Bool) (cs : List Char) :
    dropEndWhile p cs = cs.rdropWhile p := by
  induction cs using List.reverseRecOn with
  | nil => simp [dropEndWhile]
  | append_singleton cs c ih => rw [dropEndWhile_concat, List.rdropWhile_concat, ih]

/-- Unwanted characters at the end do not matter. -/
theorem dropEndWhile_append {p : Char → Bool} (front : List Char) {back : List Char}
    (h : ∀ c ∈ back, p c = true) : dropEndWhile p (front ++ back) = dropEndWhile p front := by
  induction back using List.reverseRecOn with
  | nil => rw [List.append_nil]
  | append_singleton back c ih =>
      rw [← List.append_assoc, dropEndWhile_concat, if_pos (h c (by simp))]
      exact ih fun d hd => h d (by simp [hd])

theorem dropEndWhile_eq_self {p : Char → Bool} {cs : List Char}
    (h : ∀ c ∈ cs.getLast?, p c = false) : dropEndWhile p cs = cs := by
  rw [dropEndWhile_eq_rdropWhile, List.rdropWhile_eq_self_iff]
  intro hne
  simp [h _ (List.getLast?_eq_some_getLast hne)]

/-- Behind a wanted character only what follows it is shortened. -/
theorem dropEndWhile_append_of_getLast? {p : Char → Bool} {front : List Char} (back : List Char)
    (h : ∀ c ∈ front.getLast?, p c = false) :
    dropEndWhile p (front ++ back) = front ++ dropEndWhile p back := by
  induction back using List.reverseRecOn with
  | nil => rw [List.append_nil, dropEndWhile_eq_self h, dropEndWhile, List.append_nil]
  | append_singleton back c ih =>
      rw [← List.append_assoc, dropEndWhile_concat, dropEndWhile_concat, ih]
      by_cases hc : p c = true
      · rw [if_pos hc, if_pos hc]
      · rw [if_neg hc, if_neg hc, List.append_assoc]

theorem dropEndWhile_prefix (p : Char → Bool) (cs : List Char) : dropEndWhile p cs <+: cs := by
  rw [dropEndWhile_eq_rdropWhile]
  exact List.rdropWhile_prefix _ _

/-- What is true of the last character of two texts is true of the last one of both together. -/
theorem forall_getLast?_append {P : Char → Prop} {front back : List Char}
    (hfront : ∀ c ∈ front.getLast?, P c) (hback : ∀ c ∈ back.getLast?, P c) :
    ∀ c ∈ (front ++ back).getLast?, P c := by
  intro c hc
  rw [List.getLast?_append, Option.mem_def, Option.or_eq_some_iff] at hc
  rcases hc with hc | ⟨-, hc⟩
  · exact hback c hc
  · exact hfront c hc

/-! ### Trimming -/

theorem dropWhile_head? (p : Char → Bool) (cs : List Char) :
    ∀ c ∈ (cs.dropWhile p).head?, p c = false := by
  intro c hc
  have hhead := List.head?_dropWhile_not p cs
  rw [Option.mem_def.mp hc] at hhead
  simpa using hhead

/-- What is left of a text ends as the text does. -/
theorem getLast?_dropWhile {p : Char → Bool} {cs : List Char} (h : cs.dropWhile p ≠ []) :
    (cs.dropWhile p).getLast? = cs.getLast? := by
  have hsplit := List.takeWhile_append_dropWhile (p := p) (l := cs)
  rw [← List.getLast?_append_of_ne_nil _ h, hsplit]

/-- A wanted character stays, with all that is behind it. -/
theorem dropWhile_append_cons {p : Char → Bool} {c : Char} (hc : p c = false)
    (front back : List Char) :
    (front ++ c :: back).dropWhile p = front.dropWhile p ++ c :: back := by
  rw [List.dropWhile_append]
  split
  · next hnil => rw [List.isEmpty_iff.mp hnil, List.dropWhile_cons_of_neg (by simp [hc]),
      List.nil_append]
  · rfl

theorem dropWhile_prefix_append (p : Char → Bool) (front back : List Char) :
    front.dropWhile p <+: (front ++ back).dropWhile p := by
  rw [List.dropWhile_append]
  split
  · next hnil =>
      rw [List.isEmpty_iff.mp hnil]
      exact List.nil_prefix
  · exact List.prefix_append _ _

theorem dropEndWhile_getLast? (p : Char → Bool) (cs : List Char) :
    ∀ c ∈ (dropEndWhile p cs).getLast?, p c = false := by
  intro c hc
  rw [dropEndWhile_eq_rdropWhile] at hc
  obtain ⟨hne, rfl⟩ := List.mem_getLast?_eq_getLast hc
  simpa using List.rdropWhile_last_not p cs hne

theorem trimChars_trimmed (cs : List Char) : Trimmed (trimChars cs) := by
  refine ⟨?_, dropEndWhile_getLast? _ _⟩
  intro c hc
  -- what is left at the end is a front part of what was left at the front
  obtain ⟨rest, hrest⟩ := dropEndWhile_prefix isBlank (cs.dropWhile isBlank)
  refine dropWhile_head? isBlank cs c ?_
  rw [← hrest]
  exact List.mem_head?_append_of_mem_head? hc

/-- A text with no unwanted character at its ends stays as it is. -/
theorem trimWhile_eq_self {p : Char → Bool} {cs : List Char} (hfront : ∀ c ∈ cs.head?, p c = false)
    (hback : ∀ c ∈ cs.getLast?, p c = false) : trimWhile p cs = cs := by
  have hkept : cs.dropWhile p = cs := by
    cases cs with
    | nil => rfl
    | cons c rest => simp [List.dropWhile, hfront c rfl]
  rw [trimWhile, hkept, dropEndWhile_eq_self hback]

theorem Trimmed.trimChars_eq {cs : List Char} (h : Trimmed cs) : trimChars cs = cs :=
  trimWhile_eq_self h.front h.back

/-- A text that does not end in a blank keeps its end. -/
theorem trimChars_getLast? {cs : List Char} {c : Char} (hc : c ∈ cs.getLast?)
    (hblank : isBlank c = false) : c ∈ (trimChars cs).getLast? := by
  have hne : cs.dropWhile isBlank ≠ [] := by
    intro hnil
    have hall := List.dropWhile_eq_nil_iff.mp hnil c (List.mem_of_mem_getLast? hc)
    rw [hblank] at hall
    exact absurd hall (by simp)
  have hlast : (cs.dropWhile isBlank).getLast? = some c := (getLast?_dropWhile hne).trans hc
  rw [trimChars, trimWhile, dropEndWhile_eq_self (by simpa [hlast] using hblank)]
  exact hlast

/-- Nothing but blanks is trimmed off. -/
theorem trimChars_between (cs : List Char) :
    ∃ front back, cs = front ++ trimChars cs ++ back ∧ (∀ c ∈ front, isBlank c = true) ∧
      ∀ c ∈ back, isBlank c = true := by
  obtain ⟨back, hback, hblank⟩ := dropEndWhile_append_dropped isBlank (cs.dropWhile isBlank)
  refine ⟨cs.takeWhile isBlank, back, ?_, fun c hc => List.mem_takeWhile_imp hc, hblank⟩
  rw [List.append_assoc, trimChars, trimWhile, ← hback, List.takeWhile_append_dropWhile]

/-- Blanks at the end do not matter. -/
theorem trimChars_append_blank {back : List Char} (front : List Char)
    (h : ∀ c ∈ back, isBlank c = true) : trimChars (front ++ back) = trimChars front := by
  rw [trimChars, trimChars, trimWhile, trimWhile, List.dropWhile_append]
  split
  · next hnil => rw [List.isEmpty_iff.mp hnil, List.dropWhile_eq_nil_iff.mpr h]
  · exact dropEndWhile_append _ h

/-- Nothing is left exactly of a blank text. -/
theorem trimChars_eq_nil_iff {cs : List Char} :
    trimChars cs = [] ↔ ∀ c ∈ cs, isBlank c = true := by
  constructor
  · intro h
    obtain ⟨front, back, hcs, hfront, hback⟩ := trimChars_between cs
    rw [h, List.append_nil] at hcs
    intro c hc
    rw [hcs] at hc
    rcases List.mem_append.mp hc with hc | hc
    · exact hfront c hc
    · exact hback c hc
  · intro h
    rw [trimChars, trimWhile, List.dropWhile_eq_nil_iff.mpr h]
    rfl

/-! ### Names -/

/-- A text that a field can hold for a name: it is there, and no end of it is blank. -/
def Named (s : String) : Prop :=
  s ≠ "" ∧ trim s = s

instance : DecidablePred Named :=
  fun s => inferInstanceAs (Decidable (s ≠ "" ∧ trim s = s))

theorem trim_trimmed (s : String) : Trimmed (trim s).toList := by
  rw [trim, String.toList_ofList]
  exact trimChars_trimmed s.toList

theorem trim_eq_self_iff {s : String} : trim s = s ↔ Trimmed s.toList := by
  constructor
  · intro h
    exact h ▸ trim_trimmed s
  · intro h
    rw [trim, h.trimChars_eq, String.ofList_toList]

/-- What is left of a text is a name, unless nothing is left. -/
theorem named_trim {s : String} (h : trim s ≠ "") : Named (trim s) :=
  ⟨h, trim_eq_self_iff.mpr (trim_trimmed s)⟩

/-! ### Letters and digits -/

section Ranges

variable {c : Char}

theorem toNat_of_isUpper (h : c.isUpper = true) : 0x41 ≤ c.toNat ∧ c.toNat ≤ 0x5A := by
  have hval : c.val ≥ 'A'.val ∧ c.val ≤ 'Z'.val := of_decide_eq_true h
  exact ⟨UInt32.le_iff_toNat_le.mp hval.1, UInt32.le_iff_toNat_le.mp hval.2⟩

theorem toNat_of_isLower (h : c.isLower = true) : 0x61 ≤ c.toNat ∧ c.toNat ≤ 0x7A := by
  obtain ⟨hfirst, hlast⟩ := (Bool.and_eq_true _ _).mp h
  exact ⟨UInt32.le_iff_toNat_le.mp (of_decide_eq_true hfirst),
    UInt32.le_iff_toNat_le.mp (of_decide_eq_true hlast)⟩

theorem toNat_of_isDigit (h : c.isDigit = true) : 0x30 ≤ c.toNat ∧ c.toNat ≤ 0x39 := by
  obtain ⟨hfirst, hlast⟩ := (Bool.and_eq_true _ _).mp h
  exact ⟨UInt32.le_iff_toNat_le.mp (of_decide_eq_true hfirst),
    UInt32.le_iff_toNat_le.mp (of_decide_eq_true hlast)⟩

theorem isUpper_or_isLower (h : c.isAlpha = true) : c.isUpper = true ∨ c.isLower = true :=
  (Bool.or_eq_true _ _).mp h

end Ranges

end Text

end CommandBar
