/-
What is searched of an utterance.

Before an utterance is searched the blanks around it are taken off, and then the marks
at its end.  A blank that only this uncovers stays, with all that is in front of it.
So a mark that is said behind a blank keeps that blank: with the mark the search sees
more than without it.

Blanks and marks at the end change nothing that is searched if no mark among them stands
behind such a blank; each of them is taken off again, from the last one on.  If one does,
the text that is searched is longer than without them.
-/
import CommandBar.Phrase.Search
import CommandBar.Proofs.Trim

namespace CommandBar

namespace Phrase

/-- A blank stands at the end, behind something else. -/
def EndsApart (cs : List Char) : Prop :=
  (∃ c ∈ cs.getLast?, Text.isBlank c = true) ∧ ∃ c ∈ cs, Text.isBlank c = false

/-- A mark of the second text is set apart, by a blank, from what stands in front of it in both. -/
def Detached (cs closing : List Char) : Prop :=
  ∃ front mark back, closing = front ++ mark :: back ∧ isSentenceMark mark = true ∧
    EndsApart (cs ++ front)

/-- The part of a text that is searched, without the blanks around it and then without the marks at
its end. -/
def kept (cs : List Char) : List Char :=
  Text.dropEndWhile isSentenceMark (Text.trimChars cs)

theorem searched_eq_kept (utterance : String) : searched utterance = kept utterance.toList := rfl

/-- What is searched does not begin with a blank. -/
theorem searched_head? (utterance : String) :
    ∀ c ∈ (searched utterance).head?, Text.isBlank c = false := by
  intro c hc
  obtain ⟨rest, hrest⟩ :=
    Text.dropEndWhile_prefix isSentenceMark (Text.trimChars utterance.toList)
  refine (Text.trimChars_trimmed utterance.toList).front c ?_
  rw [← hrest]
  exact List.mem_head?_append_of_mem_head? hc

variable {cs closing : List Char} {c : Char}

theorem isSentenceMark_of_isBlank (h : Text.isBlank c = true) :
    isSentenceMark c = false := by
  by_contra hmark
  simp only [isSentenceMark, Bool.not_eq_false, Bool.or_eq_true, beq_iff_eq] at hmark
  rcases hmark with ((rfl | rfl) | rfl) | rfl <;> exact absurd h (by decide)

theorem isBlank_of_isSentenceMark (h : isSentenceMark c = true) : Text.isBlank c = false := by
  by_contra hblank
  have hmark := isSentenceMark_of_isBlank (by simpa using hblank)
  rw [h] at hmark
  exact absurd hmark (by simp)

/-- A blank ends what is searched exactly if the last word is made of marks. -/
theorem searched_ends_iff (utterance : String) :
    (∀ c ∈ (searched utterance).getLast?, Text.isBlank c = true) ↔
      ∃ front marks, Text.trimChars utterance.toList = front ++ marks ∧
        (∀ c ∈ front.getLast?, Text.isBlank c = true) ∧ ∀ c ∈ marks, isSentenceMark c = true := by
  constructor
  · intro hends
    obtain ⟨marks, htrimmed, hmarks⟩ :=
      Text.dropEndWhile_append_dropped isSentenceMark (Text.trimChars utterance.toList)
    exact ⟨searched utterance, marks, htrimmed, hends, hmarks⟩
  · rintro ⟨front, marks, htrimmed, hends, hmarks⟩
    have hkept : searched utterance = front := by
      rw [searched, htrimmed, Text.dropEndWhile_append front hmarks]
      exact Text.dropEndWhile_eq_self fun c hc => isSentenceMark_of_isBlank (hends c hc)
    rwa [hkept]

/-- Without the blanks in front a text ends in a blank exactly if a blank is set apart at its
end. -/
theorem endsApart_iff :
    EndsApart cs ↔ ∃ c ∈ (cs.dropWhile Text.isBlank).getLast?, Text.isBlank c = true := by
  constructor
  · rintro ⟨⟨c, hlast, hc⟩, d, hd, hblank⟩
    have hne : cs.dropWhile Text.isBlank ≠ [] := by
      intro hnil
      have hall := List.dropWhile_eq_nil_iff.mp hnil d hd
      rw [hblank] at hall
      exact absurd hall (by simp)
    exact ⟨c, by rwa [Text.getLast?_dropWhile hne], hc⟩
  · rintro ⟨c, hlast, hc⟩
    cases hkept : cs.dropWhile Text.isBlank with
    | nil =>
        rw [hkept] at hlast
        exact absurd hlast (by simp)
    | cons d rest =>
        have hfront := Text.dropWhile_head? Text.isBlank cs d (by rw [hkept]; rfl)
        have hmem : d ∈ cs.dropWhile Text.isBlank := by rw [hkept]; exact List.mem_cons_self
        rw [Text.getLast?_dropWhile (by rw [hkept]; exact List.cons_ne_nil d rest)] at hlast
        exact ⟨⟨c, hlast, hc⟩, d, List.dropWhile_subset _ hmem, hfront⟩

/-! ### Nothing is set apart -/

/-- Marks right behind what is said, and blanks behind them, are not set apart. -/
theorem not_detached {marks blanks : List Char} (hcs : ∀ c ∈ cs.getLast?, Text.isBlank c = false)
    (hmarks : ∀ c ∈ marks, isSentenceMark c = true)
    (hblanks : ∀ c ∈ blanks, Text.isBlank c = true) : ¬ Detached cs (marks ++ blanks) := by
  rintro ⟨front, mark, back, hclosing, hmark, ⟨c, hlast, hc⟩, -⟩
  rcases List.append_eq_append_iff.mp hclosing with ⟨gap, rfl, hback⟩ | ⟨more, rfl, hmore⟩
  · -- the mark would be one of the blanks
    have hblank := hblanks mark (by rw [hback]; simp)
    rw [isBlank_of_isSentenceMark hmark] at hblank
    exact absurd hblank (by simp)
  · have hends : ∀ d ∈ (cs ++ front).getLast?, Text.isBlank d = false :=
      Text.forall_getLast?_append hcs fun d hd =>
        isBlank_of_isSentenceMark (hmarks d (by simp [List.mem_of_mem_getLast? hd]))
    rw [hends c hlast] at hc
    exact absurd hc (by simp)

/-- A blank at the end is taken off again. -/
theorem kept_append_blank (cs : List Char) (h : Text.isBlank c = true) :
    kept (cs ++ [c]) = kept cs := by
  rw [kept, Text.trimChars_append_blank cs (List.forall_mem_singleton.mpr h), kept]

/-- A mark that is not set apart is taken off again, and nothing else is. -/
theorem kept_append_mark (hmark : isSentenceMark c = true) (h : ¬ EndsApart cs) :
    kept (cs ++ [c]) = kept cs := by
  have hblank := isBlank_of_isSentenceMark hmark
  have hends : ∀ d ∈ (cs.dropWhile Text.isBlank).getLast?, Text.isBlank d = false := by
    intro d hd
    by_contra hd'
    exact h (endsApart_iff.mpr ⟨d, hd, by simpa using hd'⟩)
  rw [kept, kept, Text.trimChars, Text.trimChars, Text.trimWhile, Text.trimWhile,
    Text.dropWhile_append_cons hblank, Text.dropEndWhile_concat, if_neg (by simp [hblank]),
    Text.dropEndWhile_concat, if_pos hmark, Text.dropEndWhile_eq_self hends]

/-- **Marks and blanks of which no mark is set apart change nothing.** -/
theorem kept_append (hclosing : ∀ c ∈ closing, Text.isBlank c = true ∨ isSentenceMark c = true)
    (h : ¬ Detached cs closing) : kept (cs ++ closing) = kept cs := by
  induction closing using List.reverseRecOn with
  | nil => rw [List.append_nil]
  | append_singleton closing c ih =>
      have hfront : ¬ Detached cs closing := by
        rintro ⟨front, mark, back, rfl, hmark, hapart⟩
        exact h ⟨front, mark, back ++ [c], by simp, hmark, hapart⟩
      have hkept := ih (fun d hd => hclosing d (by simp [hd])) hfront
      rw [← List.append_assoc]
      rcases hclosing c (by simp) with hblank | hmark
      · rw [kept_append_blank _ hblank, hkept]
      · rw [kept_append_mark hmark fun hapart => h ⟨closing, c, [], rfl, hmark, hapart⟩, hkept]

/-! ### A mark is set apart -/

/-- Behind a blank that is set apart a mark keeps all that is in front of it. -/
theorem prefix_kept {front back : List Char} {mark : Char} (hmark : isSentenceMark mark = true)
    (hapart : EndsApart front) :
    front.dropWhile Text.isBlank <+: kept (front ++ mark :: back) := by
  obtain ⟨c, hlast, hc⟩ := endsApart_iff.mp hapart
  have hblank := isBlank_of_isSentenceMark hmark
  have hends : ∀ d ∈ (front.dropWhile Text.isBlank).getLast?, isSentenceMark d = false := by
    intro d hd
    rw [Option.mem_unique hd hlast]
    exact isSentenceMark_of_isBlank hc
  rw [kept, Text.trimChars, Text.trimWhile, Text.dropWhile_append_cons hblank, List.append_cons,
    Text.dropEndWhile_append_of_getLast? back (by simpa using hblank), List.append_assoc,
    Text.dropEndWhile_append_of_getLast? _ hends]
  exact List.prefix_append _ _

/-- **A mark that is set apart makes what is searched longer.** -/
theorem kept_append_longer (h : Detached cs closing) :
    (kept cs).length < (kept (cs ++ closing)).length := by
  obtain ⟨front, mark, back, rfl, hmark, hapart⟩ := h
  have hlong := (@prefix_kept (cs ++ front) back mark hmark hapart).length_le
  rw [List.append_assoc] at hlong
  have hshort := (Text.dropEndWhile_prefix isSentenceMark (Text.trimChars cs)).length_le
  have hprefix : Text.trimChars cs <+: (cs ++ front).dropWhile Text.isBlank :=
    (Text.dropEndWhile_prefix _ _).trans (Text.dropWhile_prefix_append _ cs front)
  -- the one ends in a blank and the other does not, so they are not the same
  have hne : (Text.trimChars cs).length ≠ ((cs ++ front).dropWhile Text.isBlank).length := by
    intro hlength
    obtain ⟨c, hlast, hc⟩ := endsApart_iff.mp hapart
    rw [← hprefix.eq_of_length hlength] at hlast
    have hback := (Text.trimChars_trimmed cs).back c hlast
    rw [hc] at hback
    exact absurd hback (by simp)
  have hle := hprefix.length_le
  have hkept : (kept cs).length ≤ (Text.trimChars cs).length := hshort
  omega

end Phrase

end CommandBar
