/-
What a pattern matches.

`Fits` says which texts a pattern stands for, which are those that it takes in pieces.
Running a pattern finds nothing else: a result comes from the continuation, behind a
text that fits.  And it misses nothing: behind every text that fits the continuation is
tried, unless a result was found before, so if the continuation accepts there is a
result.  Which of several possibilities is tried first does not matter for that.

The one thing that can be missed is a capital beyond U+FFFF in a set of letters; a
pattern is `Plain` if each of its sets with such a capital has the small letter too.
-/
import CommandBar.Proofs.Pieces

namespace CommandBar

namespace Phrase

namespace Pattern

/-- The text is one that the pattern stands for. -/
def Fits : Pattern → List Char → Prop
  | .empty, cs => cs = []
  | .letter c, cs => ∃ d, cs = [d] ∧ Text.sameLetter c d = true
  | .oneOf letters, cs => ∃ d, cs = [d] ∧ ∃ c ∈ letters, Text.sameLetter c d = true
  | .blanks, cs => cs ≠ [] ∧ ∀ c ∈ cs, Text.isBlank c = true
  | .field _, cs => cs ≠ [] ∧ ∀ c ∈ cs, c ≠ '\n'
  | .seq first second, cs => ∃ front back, cs = front ++ back ∧ first.Fits front ∧ second.Fits back
  | .either first second, cs => first.Fits cs ∨ second.Fits cs

/-- Where a set has a capital beyond U+FFFF, it has the small letter too. -/
def Plain : Pattern → Prop
  | .oneOf letters => ∀ c ∈ letters, c.toNat ≤ 0xFFFF ∨ Text.lowerChar c ∈ letters
  | .seq first second => first.Plain ∧ second.Plain
  | .either first second => first.Plain ∧ second.Plain
  | _ => True

/-- A pattern stands for the texts that it takes in pieces. -/
theorem fits_iff_takes {p : Pattern} {cs : List Char} :
    p.Fits cs ↔ ∃ ps, p.Takes ps ∧ textOf ps = cs := by
  induction p generalizing cs with
  | empty => simp [Fits, Takes, eq_comm]
  | letter c =>
      constructor
      · rintro ⟨d, rfl, hsame⟩
        exact ⟨[.letter d], ⟨d, rfl, hsame⟩, rfl⟩
      · rintro ⟨_, ⟨d, rfl, hsame⟩, rfl⟩
        exact ⟨d, rfl, hsame⟩
  | oneOf letters =>
      constructor
      · rintro ⟨d, rfl, hlisted⟩
        exact ⟨[.letter d], ⟨d, rfl, hlisted⟩, rfl⟩
      · rintro ⟨_, ⟨d, rfl, hlisted⟩, rfl⟩
        exact ⟨d, rfl, hlisted⟩
  | blanks =>
      constructor
      · intro hgap
        exact ⟨[.gap cs], ⟨cs, rfl, hgap⟩, textOf_singleton _⟩
      · rintro ⟨_, ⟨gap, rfl, hgap⟩, rfl⟩
        rwa [textOf_singleton]
  | field name =>
      constructor
      · intro htext
        exact ⟨[.held name cs], ⟨cs, rfl, htext⟩, textOf_singleton _⟩
      · rintro ⟨_, ⟨text, rfl, htext⟩, rfl⟩
        rwa [textOf_singleton]
  | seq first second ihfirst ihsecond =>
      constructor
      · rintro ⟨front, back, rfl, hfront, hback⟩
        obtain ⟨ps, hps, rfl⟩ := ihfirst.mp hfront
        obtain ⟨qs, hqs, rfl⟩ := ihsecond.mp hback
        exact ⟨ps ++ qs, ⟨ps, qs, rfl, hps, hqs⟩, textOf_append ps qs⟩
      · rintro ⟨_, ⟨ps, qs, rfl, hps, hqs⟩, rfl⟩
        exact ⟨textOf ps, textOf qs, textOf_append ps qs, ihfirst.mpr ⟨ps, hps, rfl⟩,
          ihsecond.mpr ⟨qs, hqs, rfl⟩⟩
  | either first second ihfirst ihsecond =>
      simp only [Fits, Takes, ihfirst, ihsecond, or_and_right, exists_or]

end Pattern

/-! ### Runs of blanks and fields -/

section Runs

variable {β : Type}

theorem runBlanks_complete {next : List Char → Option β} {gap rest : List Char}
    (hgap : Pattern.blanks.Fits gap) (hnext : (next rest).isSome = true) :
    (runBlanks next (gap ++ rest)).isSome = true := by
  obtain ⟨hne, hblank⟩ := hgap
  induction gap with
  | nil => exact absurd rfl hne
  | cons c gap ih =>
      rw [List.cons_append, runBlanks, if_pos (hblank c (by simp))]
      by_cases hmore : gap = []
      · subst hmore
        cases runBlanks next ([] ++ rest) with
        | some found => rfl
        | none => exact hnext
      · have hlonger := ih hmore fun d hd => hblank d (by simp [hd])
        obtain ⟨found, hfound⟩ := Option.isSome_iff_exists.mp hlonger
        rw [hfound]
        rfl

theorem runField_complete {next : List Char → List Char → Option β} {taken text rest : List Char}
    (hne : text ≠ []) (hline : ∀ c ∈ text, c ≠ '\n')
    (hnext : ∀ taken, (next taken rest).isSome = true) :
    (runField next taken (text ++ rest)).isSome = true := by
  induction text generalizing taken with
  | nil => exact absurd rfl hne
  | cons c text ih =>
      rw [List.cons_append, runField, if_neg (hline c (by simp))]
      cases hshort : next (taken ++ [c]) (text ++ rest) with
      | some found => rfl
      | none =>
          by_cases hmore : text = []
          · subst hmore
            have haccepts := hnext (taken ++ [c])
            rw [List.nil_append] at hshort
            rw [hshort] at haccepts
            exact absurd haccepts (by simp)
          · exact ih hmore fun d hd => hline d (by simp [hd])

end Runs

/-! ### Running a pattern -/

section Run

variable {β : Type}

/-- **Behind every text that fits there is a result, if the continuation has one.** -/
theorem Pattern.run_complete {p : Pattern} (hplain : p.Plain) {text rest : List Char}
    {taken : Captures} {next : List Char → Captures → Option β} (hfits : p.Fits text)
    (hnext : ∀ taken, (next rest taken).isSome = true) :
    (p.run (text ++ rest) taken next).isSome = true := by
  -- the continuation accepts whatever was taken, so an earlier possibility that fails loses nothing
  induction p generalizing text rest taken next with
  | empty =>
      obtain rfl : text = [] := hfits
      exact hnext taken
  | letter c =>
      obtain ⟨d, rfl, hsame⟩ := hfits
      show (if Text.sameLetter c d = true then next rest taken else none).isSome = true
      rw [if_pos hsame]
      exact hnext taken
  | oneOf letters =>
      obtain ⟨d, rfl, c, hc, hsame⟩ := hfits
      -- beyond the first plane it is the small letter of the set that finds `d`
      have hlisted : letters.any (Text.listsLetter · d) = true := by
        rw [List.any_eq_true]
        by_cases hplane : c.toNat ≤ 0xFFFF
        · exact ⟨c, hc, Text.listsLetter_of_le hplane hsame⟩
        · exact ⟨_, (hplain c hc).resolve_left hplane,
            Text.listsLetter_lowerChar (Nat.lt_of_not_le hplane) hsame⟩
      show (if letters.any (Text.listsLetter · d) = true then next rest taken else none).isSome =
        true
      rw [if_pos hlisted]
      exact hnext taken
  | blanks => exact runBlanks_complete hfits (hnext taken)
  | field name => exact runField_complete hfits.1 hfits.2 fun text => hnext _
  | seq first second ihfirst ihsecond =>
      obtain ⟨front, back, rfl, hfront, hback⟩ := hfits
      rw [List.append_assoc]
      exact ihfirst hplain.1 hfront fun taken => ihsecond hplain.2 hback hnext
  | either first second ihfirst ihsecond =>
      rw [run]
      cases hrun : first.run (text ++ rest) taken next with
      | some found => rfl
      | none =>
          rcases hfits with hfirst | hsecond
          · have hsome : (first.run (text ++ rest) taken next).isSome = true :=
              ihfirst hplain.1 hfirst hnext
            rw [hrun] at hsome
            exact absurd hsome (by simp)
          · exact ihsecond hplain.2 hsecond hnext

end Run

/-! ### Searching -/

/-- A part of the text is of that kind, which begins at the front or behind a blank and ends at
the end or before a line break there. -/
def Occurs (wanted : List Char → Prop) (cs : List Char) : Prop :=
  ∃ before said after, cs = before ++ (said ++ after) ∧
    (∀ c ∈ before.getLast?, Text.isBlank c = true) ∧ wanted said ∧ (after = [] ∨ after = ['\n'])

theorem Occurs.imp {wanted wanted' : List Char → Prop} {cs : List Char} (h : Occurs wanted cs)
    (himp : ∀ said, wanted said → wanted' said) : Occurs wanted' cs := by
  obtain ⟨before, said, after, hcs, hbefore, hwanted, hafter⟩ := h
  exact ⟨before, said, after, hcs, hbefore, himp said hwanted, hafter⟩

theorem mem_afterBlanks {start cs : List Char} :
    start ∈ afterBlanks cs ↔ ∃ before c, cs = before ++ c :: start ∧ Text.isBlank c = true := by
  induction cs with
  | nil => simp [afterBlanks]
  | cons d cs ih =>
      have hrest : start ∈ afterBlanks cs ↔
          ∃ before c, d :: cs = (d :: before) ++ c :: start ∧ Text.isBlank c = true := by
        simpa using ih
      have hsplit : (∃ before c, d :: cs = before ++ c :: start ∧ Text.isBlank c = true) ↔
          (Text.isBlank d = true ∧ start = cs) ∨ start ∈ afterBlanks cs := by
        rw [hrest]
        constructor
        · rintro ⟨before, c, hcs, hc⟩
          cases before with
          | nil =>
              obtain ⟨rfl, rfl⟩ := List.cons.inj hcs
              exact Or.inl ⟨hc, rfl⟩
          | cons e before =>
              obtain ⟨rfl, -⟩ := List.cons.inj hcs
              exact Or.inr ⟨before, c, hcs, hc⟩
        · rintro (⟨hd, rfl⟩ | ⟨before, c, hcs, hc⟩)
          · exact ⟨[], d, rfl, hd⟩
          · exact ⟨d :: before, c, hcs, hc⟩
      rw [hsplit, afterBlanks]
      by_cases hd : Text.isBlank d = true <;> simp [hd]

/-- The places where a search starts are the front and those behind a blank. -/
theorem mem_starts {start cs : List Char} :
    start ∈ cs :: afterBlanks cs ↔
      ∃ before, cs = before ++ start ∧ ∀ c ∈ before.getLast?, Text.isBlank c = true := by
  rw [List.mem_cons, mem_afterBlanks]
  constructor
  · rintro (rfl | ⟨before, c, rfl, hc⟩)
    · exact ⟨[], rfl, by simp⟩
    · exact ⟨before ++ [c], by simp, by simpa using hc⟩
  · rintro ⟨before, rfl, hbefore⟩
    rcases List.eq_nil_or_concat before with rfl | ⟨front, c, rfl⟩
    · exact Or.inl rfl
    · exact Or.inr ⟨front, c, by simp, hbefore c (by simp)⟩

theorem atEnd_eq_some {rest : List Char} {taken result : Captures}
    (h : atEnd rest taken = some result) : (rest = [] ∨ rest = ['\n']) ∧ taken = result := by
  unfold atEnd at h
  split at h
  · next hrest => exact ⟨hrest, Option.some.inj h⟩
  · exact absurd h (by simp)

section Search

variable {p : Pattern} {cs : List Char}

/-- **A search returns what the fields hold in a part that the pattern takes.** -/
theorem Pattern.search?_takes {result : Captures} (h : p.search? cs = some result) :
    Occurs (fun said => ∃ ps, p.Takes ps ∧ textOf ps = said ∧ heldIn ps = result) cs := by
  obtain ⟨start, hstart, hrun⟩ := List.exists_of_findSome?_eq_some h
  obtain ⟨before, rfl, hbefore⟩ := mem_starts.mp hstart
  obtain ⟨ps, rest, rfl, hps, hend⟩ := run_takes hrun
  obtain ⟨hrest, hresult⟩ := atEnd_eq_some hend
  exact ⟨before, textOf ps, rest, rfl, hbefore, ⟨ps, hps, rfl, hresult⟩, hrest⟩

/-- **A search that finds something finds a part that fits.** -/
theorem Pattern.search?_sound {result : Captures} (h : p.search? cs = some result) :
    Occurs p.Fits cs :=
  (search?_takes h).imp fun _ ⟨ps, hps, htext, _⟩ => fits_iff_takes.mpr ⟨ps, hps, htext⟩

/-- **A search finds something where a part fits.** -/
theorem Pattern.search?_complete (hplain : p.Plain) (h : Occurs p.Fits cs) :
    (p.search? cs).isSome = true := by
  obtain ⟨before, said, after, rfl, hbefore, hfits, hafter⟩ := h
  have hrun : (p.run (said ++ after) [] atEnd).isSome = true := by
    refine run_complete hplain hfits fun taken => ?_
    rw [atEnd, if_pos hafter]
    rfl
  rw [search?, List.findSome?_isSome_iff]
  exact ⟨said ++ after, mem_starts.mpr ⟨before, rfl, hbefore⟩, hrun⟩

end Search

theorem Template.search?_ne_none_iff {t : Template} {utterance : String} :
    t.search? utterance ≠ none ↔ (t.pattern.search? (searched utterance)).isSome = true := by
  rw [Template.search?, ne_eq, Option.map_eq_none_iff, Option.isSome_iff_ne_none]

end Phrase

end CommandBar
