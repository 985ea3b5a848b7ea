/-
Looking a letter up in a set, and comparing it.

Within the first plane the two are the same.  Beyond it a set has a letter only by
its lower case, so the set has nothing that the comparison would not allow, but of a
capital it has not even the capital itself.  What makes up for it is the small letter
in the same set.

Beyond the first plane the tables are simple: no letter has a family, lowering a
letter stays beyond the plane, and lowering it twice is lowering it once.
-/
import CommandBar.Text.Case

namespace CommandBar

namespace Text

/-! ### The runs of capitals -/

theorem CaseRun.find?_eq_some {n m : Nat} {runs : List CaseRun} (h : find? n runs = some m) :
    ∃ run ∈ runs, run.first ≤ n ∧ n ≤ run.last ∧ m = ((n : Int) + run.shift).toNat := by
  induction runs with
  | nil => simp [find?] at h
  | cons run rest ih =>
      rw [find?] at h
      split at h
      · simp at h
      · next hfirst =>
          split at h
          · next hlast =>
              exact ⟨run, by simp, Nat.le_of_not_lt hfirst, hlast.1, (Option.some.inj h).symm⟩
          · obtain ⟨other, hother, hbounds⟩ := ih h
            exact ⟨other, by simp [hother], hbounds⟩

theorem CaseRun.find?_eq_none {n : Nat} {runs : List CaseRun}
    (h : ∀ run ∈ runs, n < run.first ∨ run.last < n) : find? n runs = none := by
  induction runs with
  | nil => rfl
  | cons run rest ih =>
      have hrest : find? n rest = none := ih fun other hother => h other (by simp [hother])
      rw [find?]
      split
      · rfl
      · next hfirst =>
          have hlast : run.last < n := (h run (by simp)).resolve_left hfirst
          rw [if_neg (by omega), hrest]

/-- Where a run ends beyond the first plane after the shift, no run begins or goes on. -/
theorem lowerRuns_apart : ∀ run ∈ lowerRuns, run.last + run.shift ≤ 0xFFFF ∨
    ∀ other ∈ lowerRuns, run.last + run.shift < other.first ∨
      (other.last : Int) < run.first + run.shift := by
  decide +kernel

/-- Beyond the first plane capitals are moved upwards and stay characters. -/
theorem lowerRuns_beyond : ∀ run ∈ lowerRuns, 0xFFFF < run.last →
    0 ≤ run.shift ∧ run.last + run.shift < 0x110000 := by
  decide +kernel

/-- No letter beyond the first plane has a family. -/
theorem letterFamilies_within :
    ∀ family ∈ letterFamilies, family.1 ≤ 0xFFFF ∧ family.2 ≤ 0xFFFF := by
  decide

/-! ### Lower case beyond the first plane -/

theorem toNat_ofNat {n : Nat} (hplane : 0xFFFF < n) (hn : n < 0x110000) :
    (Char.ofNat n).toNat = n := by
  have hvalid : n.isValidChar := Or.inr ⟨by omega, hn⟩
  exact congrArg Char.toNat (dif_pos hvalid)

/-- What is sent beyond the first plane arrives there. -/
theorem toNat_ofNat_of_lt {n : Nat} (h : 0xFFFF < (Char.ofNat n).toNat) :
    (Char.ofNat n).toNat = n := by
  by_cases hvalid : n.isValidChar
  · exact congrArg Char.toNat (dif_pos hvalid)
  · have hzero : Char.ofNat n = Char.ofNatAux 0 (by decide) := dif_neg hvalid
    exact absurd (hzero ▸ h) (by decide)

theorem lowerChar_of_find?_none {c : Char} (h : CaseRun.find? c.toNat lowerRuns = none) :
    lowerChar c = c := by
  simp only [lowerChar, h]

theorem lowerChar_of_find?_some {c : Char} {m : Nat}
    (h : CaseRun.find? c.toNat lowerRuns = some m) : lowerChar c = Char.ofNat m := by
  simp only [lowerChar, h]

/-- A small letter beyond the first plane is no capital. -/
theorem lowerChar_lowerChar {c : Char} (h : 0xFFFF < (lowerChar c).toNat) :
    lowerChar (lowerChar c) = lowerChar c := by
  cases hfind : CaseRun.find? c.toNat lowerRuns with
  | none =>
      have hsame := lowerChar_of_find?_none hfind
      rw [hsame, hsame]
  | some m =>
      rw [lowerChar_of_find?_some hfind] at h ⊢
      have harrives := toNat_ofNat_of_lt h
      obtain ⟨run, hrun, hfirst, hlast, hm⟩ := CaseRun.find?_eq_some hfind
      have hapart := (lowerRuns_apart run hrun).resolve_left (by omega)
      refine lowerChar_of_find?_none (CaseRun.find?_eq_none fun other hother => ?_)
      rw [harrives]
      rcases hapart other hother with hbelow | habove
      · left
        omega
      · right
        omega

theorem lt_lowerChar {c : Char} (h : 0xFFFF < c.toNat) : 0xFFFF < (lowerChar c).toNat := by
  cases hfind : CaseRun.find? c.toNat lowerRuns with
  | none => rwa [lowerChar_of_find?_none hfind]
  | some m =>
      obtain ⟨run, hrun, hfirst, hlast, hm⟩ := CaseRun.find?_eq_some hfind
      obtain ⟨hshift, hvalid⟩ := lowerRuns_beyond run hrun (by omega)
      rw [lowerChar_of_find?_some hfind, toNat_ofNat (by omega) (by omega)]
      omega

/-- Beyond the first plane a letter is compared by its lower case. -/
theorem letterKey_of_lt {c : Char} (h : 0xFFFF < (lowerChar c).toNat) :
    letterKey c = (lowerChar c).toNat := by
  have hnone : letterFamilies.lookup (lowerChar c).toNat = none := by
    rw [List.lookup_eq_none_iff]
    intro family hfamily
    have hwithin := (letterFamilies_within family hfamily).1
    rw [bne_iff_ne]
    omega
  rw [letterKey, hnone]
  rfl

theorem letterKey_le {c : Char} (h : (lowerChar c).toNat ≤ 0xFFFF) : letterKey c ≤ 0xFFFF := by
  rw [letterKey]
  cases hfind : letterFamilies.lookup (lowerChar c).toNat with
  | none => exact h
  | some key =>
      obtain ⟨before, after, hsplit, -⟩ := List.lookup_eq_some_iff.mp hfind
      exact (letterFamilies_within ((lowerChar c).toNat, key) (by simp [hsplit])).2

/-! ### Sets -/

/-- A set has nothing that is not the same letter as one that it lists. -/
theorem sameLetter_of_listsLetter {c d : Char} (h : listsLetter c d = true) :
    sameLetter c d = true := by
  unfold listsLetter at h
  by_cases hplane : c.toNat ≤ 0xFFFF
  · rwa [if_pos hplane] at h
  · rw [if_neg hplane, beq_iff_eq] at h
    subst h
    have hbeyond : 0xFFFF < (lowerChar d).toNat := Nat.lt_of_not_le hplane
    have hsmall := lowerChar_lowerChar hbeyond
    have hkey : letterKey (lowerChar d) = letterKey d := by
      rw [letterKey_of_lt (hsmall.symm ▸ hbeyond), hsmall, letterKey_of_lt hbeyond]
    simp [sameLetter, hkey]

/-- Within the first plane a set has every form of the letters that it lists. -/
theorem listsLetter_of_le {c d : Char} (hplane : c.toNat ≤ 0xFFFF)
    (h : sameLetter c d = true) : listsLetter c d = true := by
  rwa [listsLetter, if_pos hplane]

/-- Beyond it a set has every form of a letter by the small one. -/
theorem listsLetter_lowerChar {c d : Char} (hplane : 0xFFFF < c.toNat)
    (h : sameLetter c d = true) : listsLetter (lowerChar c) d = true := by
  have hbeyond := lt_lowerChar hplane
  have hkeys : letterKey d = (lowerChar c).toNat := by
    rw [← letterKey_of_lt hbeyond]
    exact (beq_iff_eq.mp h).symm
  have hlower : (lowerChar d).toNat = (lowerChar c).toNat := by
    by_cases hd : 0xFFFF < (lowerChar d).toNat
    · rw [← letterKey_of_lt hd, hkeys]
    · have hle := letterKey_le (Nat.le_of_not_lt hd)
      omega
  rw [listsLetter, if_neg (by omega), beq_iff_eq, ← Char.ofNat_toNat (lowerChar d), hlower,
    Char.ofNat_toNat]

end Text

end CommandBar
