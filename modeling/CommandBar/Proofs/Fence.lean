/-
What peeling takes away, and what it leaves.

Around a reply there may be a wrapping: blanks and fences in any order and number,
with language tags on the fences in front of it.  Two facts about one step carry
everything.  A step takes nothing but wrapping, so what it leaves is never longer,
and is the same text if it is as long; that is why repeating it ends.  And a step
takes wrapping only down to a text that begins and ends with braces, so whatever
stands around an object, peeling ends at the object.

What is left in the end is bare: no blank and no fence at either end.  Bare texts
are exactly those that a step does not change.
-/
import CommandBar.Proofs.Trim
import CommandBar.Reply.Fence
import Mathlib.Logic.Function.Iterate

namespace CommandBar

namespace Reply

open Text (isBlank trimChars)

/-- Blanks and fences, a fence being three backticks with a tag of such characters. -/
inductive Wrapping (isTag : Char → Bool) : List Char → Prop
  | nil : Wrapping isTag []
  | blank {c : Char} {rest : List Char} (h : isBlank c = true) (wrapping : Wrapping isTag rest) :
      Wrapping isTag (c :: rest)
  | fence {tag rest : List Char} (h : ∀ c ∈ tag, isTag c = true) (wrapping : Wrapping isTag rest) :
      Wrapping isTag ('`' :: '`' :: '`' :: (tag ++ rest))

/-- What may stand in front of a reply: blanks, and fences that may have a language tag. -/
abbrev Front : List Char → Prop := Wrapping isTagChar

/-- What may stand behind a reply: blanks, and fences without a tag. -/
abbrev Back : List Char → Prop := Wrapping fun _ => false

/-- A text with no blank and no fence at either end. -/
structure Bare (cs : List Char) : Prop where
  trimmed : Text.Trimmed cs
  /-- No fence opens it. -/
  unopened : ¬ ['`', '`', '`'] <+: cs
  /-- No fence closes it. -/
  unclosed : ¬ ['`', '`', '`'] <:+ cs

/-! ### Wrappings -/

namespace Wrapping

variable {isTag : Char → Bool} {w v : List Char}

theorem append (hw : Wrapping isTag w) (hv : Wrapping isTag v) : Wrapping isTag (w ++ v) := by
  induction hw with
  | nil => exact hv
  | blank h _ ih => exact .blank h ih
  | @fence tag rest h _ ih =>
      have hfence := Wrapping.fence h ih
      rwa [← List.append_assoc] at hfence

theorem of_blanks (h : ∀ c ∈ w, isBlank c = true) : Wrapping isTag w := by
  induction w with
  | nil => exact .nil
  | cons c rest ih =>
      exact .blank (h c (by simp)) (ih fun d hd => h d (List.mem_cons_of_mem _ hd))

theorem of_fence {tag : List Char} (h : ∀ c ∈ tag, isTag c = true) :
    Wrapping isTag ('`' :: '`' :: '`' :: tag) := by
  simpa using Wrapping.fence h .nil

/-- Read backwards, a wrapping without tags is one again. -/
theorem reverse (h : Back w) : Back w.reverse := by
  induction h with
  | nil => exact .nil
  | @blank c rest h _ ih =>
      rw [List.reverse_cons]
      exact ih.append (.of_blanks (by simpa using h))
  | @fence tag rest h _ ih =>
      obtain rfl : tag = [] := List.eq_nil_iff_forall_not_mem.mpr fun c hc => by simpa using h c hc
      have hfence : Back ['`', '`', '`'] := .of_fence (by simp)
      simpa using ih.append hfence

/-- A wrapping that is not empty begins with a blank or a fence. -/
theorem eq_nil (h : Wrapping isTag w) (hblank : ∀ c ∈ w.head?, isBlank c = false)
    (hfence : ¬ ['`', '`', '`'] <+: w) : w = [] := by
  cases h with
  | nil => rfl
  | @blank c rest h _ =>
      have hnot := hblank c rfl
      rw [h] at hnot
      simp at hnot
  | @fence tag rest h _ => exact absurd ⟨tag ++ rest, rfl⟩ hfence

end Wrapping

/-! ### What a step takes -/

/-- The second text is the first without some wrapping around it. -/
def Leaves (cs kept : List Char) : Prop :=
  ∃ front back, cs = front ++ kept ++ back ∧ Front front ∧ Back back

namespace Leaves

variable {cs kept kept' : List Char}

theorem refl (cs : List Char) : Leaves cs cs :=
  ⟨[], [], by simp, .nil, .nil⟩

theorem trans (h : Leaves cs kept) (h' : Leaves kept kept') : Leaves cs kept' := by
  obtain ⟨front, back, rfl, hfront, hback⟩ := h
  obtain ⟨front', back', rfl, hfront', hback'⟩ := h'
  exact ⟨front ++ front', back' ++ back, by simp, hfront.append hfront', hback'.append hback⟩

/-- Unless it takes nothing, it leaves less. -/
theorem eq_or_length_lt (h : Leaves cs kept) : kept = cs ∨ kept.length < cs.length := by
  obtain ⟨front, back, rfl, -, -⟩ := h
  cases front with
  | nil =>
      cases back with
      | nil => exact Or.inl (by simp)
      | cons c rest => exact Or.inr (by simp)
  | cons c rest => exact Or.inr (by simp; omega)

end Leaves

/-- A text without some of its front part, in the shape that the steps at the front have. -/
theorem dropLineBreak_front (cs : List Char) :
    ∃ front, cs = front ++ dropLineBreak cs ∧ ∀ c ∈ front, isBlank c = true := by
  unfold dropLineBreak
  split
  · exact ⟨['\r', '\n'], rfl, List.all_eq_true.mp rfl⟩
  · exact ⟨['\n'], rfl, List.all_eq_true.mp rfl⟩
  · exact ⟨[], rfl, by simp⟩

theorem dropOpening_leaves (cs : List Char) : Leaves cs (dropOpening cs) := by
  unfold dropOpening
  split
  · next rest =>
      let tag := rest.takeWhile isTagChar
      let behind := rest.dropWhile isTagChar
      let gap := behind.takeWhile fun c => c == ' ' || c == '\t'
      obtain ⟨lineBreak, hbreak, hblank⟩ :=
        dropLineBreak_front (behind.dropWhile fun c => c == ' ' || c == '\t')
      have hgap : ∀ c ∈ gap, isBlank c = true := by
        intro c hc
        have hspace := List.mem_takeWhile_imp hc
        simp only [Bool.or_eq_true, beq_iff_eq] at hspace
        rcases hspace with rfl | rfl <;> decide
      have hfront : Front ('`' :: '`' :: '`' :: (tag ++ (gap ++ lineBreak))) :=
        .fence (fun c hc => List.mem_takeWhile_imp hc)
          (.append (.of_blanks hgap) (.of_blanks hblank))
      have hrest : rest = tag ++ (gap ++ behind.dropWhile fun c => c == ' ' || c == '\t') := by
        rw [List.takeWhile_append_dropWhile, List.takeWhile_append_dropWhile]
      refine ⟨_, [], ?_, hfront, .nil⟩
      conv_lhs => rw [hrest, hbreak]
      simp [behind]
  · exact .refl _

theorem dropClosingReversed_back (cs : List Char) :
    ∃ back, cs = back ++ dropClosingReversed cs ∧ Back back := by
  have hbreak : ∀ gap : List Char, (∀ c ∈ gap, isBlank c = true) →
      Back ('`' :: '`' :: '`' :: gap) :=
    fun gap hgap => @Wrapping.fence _ [] _ (by simp) (.of_blanks hgap)
  unfold dropClosingReversed
  split
  · exact ⟨['`', '`', '`', '\n', '\r'], rfl, hbreak _ (List.all_eq_true.mp rfl)⟩
  · exact ⟨['`', '`', '`', '\n'], rfl, hbreak _ (List.all_eq_true.mp rfl)⟩
  · exact ⟨['`', '`', '`'], rfl, hbreak _ (by simp)⟩
  · exact ⟨[], rfl, .nil⟩

theorem dropClosing_leaves (cs : List Char) : Leaves cs (dropClosing cs) := by
  obtain ⟨back, hback, hwrapping⟩ := dropClosingReversed_back cs.reverse
  refine ⟨[], back.reverse, ?_, .nil, hwrapping.reverse⟩
  rw [List.nil_append, dropClosing, ← List.reverse_append, ← hback, List.reverse_reverse]

theorem trimChars_leaves (cs : List Char) : Leaves cs (trimChars cs) := by
  obtain ⟨front, back, hcs, hfront, hback⟩ := Text.trimChars_between cs
  exact ⟨front, back, hcs, .of_blanks hfront, .of_blanks hback⟩

/-- A step takes nothing but wrapping. -/
theorem peel_leaves (cs : List Char) : Leaves cs (peel cs) :=
  ((dropOpening_leaves cs).trans (dropClosing_leaves _)).trans (trimChars_leaves _)

/-! ### Where steps come to rest -/

theorem dropOpening_eq_self {cs : List Char} (h : ¬ ['`', '`', '`'] <+: cs) :
    dropOpening cs = cs := by
  unfold dropOpening
  split
  · next rest => exact absurd ⟨rest, rfl⟩ h
  · rfl

theorem dropClosing_eq_self {cs : List Char} (h : ¬ ['`', '`', '`'] <:+ cs) :
    dropClosing cs = cs := by
  have hticks : ∀ rest, cs.reverse ≠ '`' :: '`' :: '`' :: rest := by
    intro rest hrest
    refine h (List.reverse_prefix.mp ⟨rest, ?_⟩)
    rw [hrest]
    rfl
  unfold dropClosing dropClosingReversed
  split
  · next hrest => exact absurd hrest (hticks _)
  · next hrest => exact absurd hrest (hticks _)
  · next hrest => exact absurd hrest (hticks _)
  · exact List.reverse_reverse cs

theorem length_dropOpening_lt (rest : List Char) :
    (dropOpening ('`' :: '`' :: '`' :: rest)).length < rest.length + 3 := by
  let behind := (rest.dropWhile isTagChar).dropWhile fun c => c == ' ' || c == '\t'
  obtain ⟨front, hbehind, -⟩ := dropLineBreak_front behind
  have hle : (dropLineBreak behind).length ≤ behind.length := by
    conv_rhs => rw [hbehind]
    simp
  have hdrop : behind.length ≤ rest.length :=
    Nat.le_trans (List.dropWhile_sublist _).length_le (List.dropWhile_sublist _).length_le
  have hopen : dropOpening ('`' :: '`' :: '`' :: rest) = dropLineBreak behind := rfl
  rw [hopen]
  omega

theorem length_dropClosing_lt (rest : List Char) :
    (dropClosing (rest ++ ['`', '`', '`'])).length < rest.length + 3 := by
  have hlt : ∀ behind : List Char,
      (dropClosingReversed ('`' :: '`' :: '`' :: behind)).length < behind.length + 3 := by
    intro behind
    unfold dropClosingReversed
    split <;> simp_all <;> omega
  rw [dropClosing, List.length_reverse, List.reverse_append]
  simpa using hlt rest.reverse

/-- A step changes exactly the texts that are not bare. -/
theorem peel_eq_self_iff (cs : List Char) : peel cs = cs ↔ Bare cs := by
  constructor
  · intro h
    have hlength : cs.length ≤ (dropClosing (dropOpening cs)).length := by
      rcases (trimChars_leaves (dropClosing (dropOpening cs))).eq_or_length_lt with heq | hlt
      · rw [← heq]
        exact Nat.le_of_eq (congrArg List.length h.symm)
      · have hpeel : (peel cs).length = cs.length := congrArg List.length h
        rw [peel] at hpeel
        omega
    have hunopened : ¬ ['`', '`', '`'] <+: cs := by
      rintro ⟨rest, rfl⟩
      have hopen := length_dropOpening_lt rest
      rcases (dropClosing_leaves (dropOpening ('`' :: '`' :: '`' :: rest))).eq_or_length_lt
        with heq | hlt
      · simp only [List.cons_append, List.nil_append, heq, List.length_cons] at hlength
        omega
      · simp only [List.cons_append, List.nil_append, List.length_cons] at hlength
        omega
    refine ⟨h ▸ Text.trimChars_trimmed _, hunopened, ?_⟩
    rw [dropOpening_eq_self hunopened] at hlength
    rintro ⟨rest, rfl⟩
    have hclose := length_dropClosing_lt rest
    simp only [List.length_append, List.length_cons, List.length_nil] at hlength
    omega
  · rintro ⟨htrimmed, hunopened, hunclosed⟩
    rw [peel, dropOpening_eq_self hunopened, dropClosing_eq_self hunclosed, htrimmed.trimChars_eq]

/-- Repeating the step as often as the text has characters ends at a bare text. -/
theorem peelAll_bare (fuel : Nat) (cs : List Char) (h : cs.length < fuel) :
    Bare (peelAll fuel cs) := by
  induction fuel generalizing cs with
  | zero => omega
  | succ fuel ih =>
      rw [peelAll]
      split
      · next hsame => exact (peel_eq_self_iff cs).mp hsame
      · next hother =>
          rcases (peel_leaves cs).eq_or_length_lt with heq | hlt
          · exact absurd heq hother
          · exact ih _ (by omega)

theorem peelAll_leaves (fuel : Nat) (cs : List Char) : Leaves cs (peelAll fuel cs) := by
  induction fuel generalizing cs with
  | zero => exact .refl cs
  | succ fuel ih =>
      rw [peelAll]
      split
      · exact .refl cs
      · exact (peel_leaves cs).trans (ih _)

/-- What repeating the step ends at is reached by it, and every text before it is changed. -/
theorem peelAll_rounds (fuel : Nat) (cs : List Char) :
    ∃ rounds, peelAll fuel cs = peel^[rounds] cs ∧
      ∀ k < rounds, peel (peel^[k] cs) ≠ peel^[k] cs := by
  induction fuel generalizing cs with
  | zero => exact ⟨0, rfl, by simp⟩
  | succ fuel ih =>
      rw [peelAll]
      split
      · exact ⟨0, rfl, by simp⟩
      · next hother =>
          obtain ⟨rounds, hrounds, hbefore⟩ := ih (peel cs)
          refine ⟨rounds + 1, by rw [hrounds, Function.iterate_succ_apply], ?_⟩
          intro k hk
          cases k with
          | zero => exact hother
          | succ k =>
              rw [Function.iterate_succ_apply]
              exact hbefore k (by omega)

theorem unfenceChars_bare (cs : List Char) : Bare (unfenceChars cs) := by
  refine peelAll_bare _ _ ?_
  rcases (trimChars_leaves cs).eq_or_length_lt with heq | hlt
  · rw [heq]
    omega
  · omega

theorem unfenceChars_leaves (cs : List Char) : Leaves cs (unfenceChars cs) :=
  (trimChars_leaves cs).trans (peelAll_leaves _ _)

theorem Bare.unfenceChars_eq {cs : List Char} (h : Bare cs) : unfenceChars cs = cs := by
  rw [unfenceChars, h.trimmed.trimChars_eq, peelAll, if_pos ((peel_eq_self_iff cs).mpr h)]

/-! ### A text between braces -/

/-- The text begins with an opening brace and ends with a closing one. -/
structure Braced (cs : List Char) : Prop where
  front : cs.head? = some '{'
  back : cs.getLast? = some '}'

namespace Braced

variable {t cs : List Char}

theorem bare (h : Braced t) : Bare t := by
  refine ⟨⟨?_, ?_⟩, ?_, ?_⟩
  · simp only [h.front, Option.mem_some_iff, forall_eq']
    decide
  · simp only [h.back, Option.mem_some_iff, forall_eq']
    decide
  · rintro ⟨rest, rfl⟩
    simpa using h.front
  · rintro ⟨rest, rfl⟩
    simpa using h.back

end Braced

theorem isBlank_of_isTagChar {c : Char} (h : isTagChar c = true) : isBlank c = false := by
  have hrange : 0x2B ≤ c.toNat ∧ c.toNat ≤ 0x7A := by
    simp only [isTagChar, Bool.or_eq_true, beq_iff_eq] at h
    rcases h with ((halphanum | rfl) | rfl) | rfl
    · rcases (Bool.or_eq_true _ _).mp halphanum with halpha | hdigit
      · rcases Text.isUpper_or_isLower halpha with hupper | hlower
        · have hbounds := Text.toNat_of_isUpper hupper
          omega
        · have hbounds := Text.toNat_of_isLower hlower
          omega
      · have hbounds := Text.toNat_of_isDigit hdigit
        omega
    · decide
    · decide
    · decide
  simp [Text.isBlank]
  omega

/-! #### Steps on a wrapping and the text behind it -/

section Steps

variable {isTag p : Char → Bool} {w rest : List Char}

/-- Dropping blanks from a wrapping leaves a wrapping. -/
theorem Wrapping.dropWhile_append (hw : Wrapping isTag w)
    (hblank : ∀ c, p c = true → isBlank c = true) (hrest : ∀ c ∈ rest.head?, p c = false) :
    ∃ w', Wrapping isTag w' ∧ (w ++ rest).dropWhile p = w' ++ rest := by
  induction hw with
  | nil =>
      refine ⟨[], .nil, ?_⟩
      cases rest with
      | nil => rfl
      | cons c rest => simp [hrest c rfl]
  | @blank c w h hw ih =>
      by_cases hc : p c = true
      · simpa [hc] using ih
      · exact ⟨c :: w, .blank h hw, by simp [hc]⟩
  | @fence tag w h hw ih =>
      have htick : p '`' = false := by
        cases hp : p '`' with
        | false => rfl
        | true => exact absurd (hblank _ hp) (by decide)
      exact ⟨_, .fence h hw, by simp [htick]⟩

/-- What begins a wrapping or the text behind it is no character of a tag. -/
theorem Wrapping.head? (hw : Wrapping isTag w) (hrest : rest.head? = some '{') :
    ∀ c ∈ (w ++ rest).head?, isTagChar c = false := by
  intro c hc
  cases hw with
  | nil =>
      rw [List.nil_append, hrest] at hc
      obtain rfl : '{' = c := by simpa using hc
      decide
  | blank h hw =>
      cases htag : isTagChar c with
      | false => rfl
      | true =>
          have hblank := isBlank_of_isTagChar htag
          simp only [List.cons_append, List.head?_cons, Option.mem_def, Option.some.injEq] at hc
          rw [← hc, h] at hblank
          simp at hblank
  | fence h hw =>
      obtain rfl : '`' = c := by simpa using hc
      decide

theorem Wrapping.dropLineBreak_append (hw : Wrapping isTag w) (hrest : rest.head? = some '{') :
    ∃ w', Wrapping isTag w' ∧ dropLineBreak (w ++ rest) = w' ++ rest := by
  obtain ⟨t, rfl⟩ : ∃ t, rest = '{' :: t := List.head?_eq_some_iff.mp hrest
  cases hw with
  | nil => exact ⟨[], .nil, rfl⟩
  | @fence tag w h hw => exact ⟨_, .fence h hw, rfl⟩
  | @blank c w h hw =>
      by_cases hline : c = '\n'
      · subst hline
        exact ⟨w, hw, rfl⟩
      · by_cases hreturn : c = '\r'
        · subst hreturn
          cases hw with
          | nil => exact ⟨_, .blank h .nil, rfl⟩
          | @fence tag w h' hw => exact ⟨_, .blank h (.fence h' hw), rfl⟩
          | @blank d w h' hw =>
              by_cases hline : d = '\n'
              · subst hline
                exact ⟨w, hw, rfl⟩
              · exact ⟨_, .blank h (.blank h' hw), by simp [dropLineBreak, hline]⟩
        · exact ⟨_, .blank h hw, by simp [dropLineBreak, hline, hreturn]⟩

theorem Wrapping.dropOpening_append (hw : Front w) (hrest : rest.head? = some '{') :
    ∃ w', Front w' ∧ dropOpening (w ++ rest) = w' ++ rest := by
  cases hw with
  | nil =>
      obtain ⟨t, rfl⟩ : ∃ t, rest = '{' :: t := List.head?_eq_some_iff.mp hrest
      exact ⟨[], .nil, rfl⟩
  | @blank c w h hw =>
      refine ⟨_, .blank h hw, dropOpening_eq_self ?_⟩
      rintro ⟨behind, hbehind⟩
      simp only [List.cons_append, List.nil_append, List.cons.injEq] at hbehind
      rw [← hbehind.1] at h
      exact absurd h (by decide)
  | @fence tag w h hw =>
      have htag : (tag ++ w ++ rest).dropWhile isTagChar = w ++ rest := by
        rw [List.append_assoc, List.dropWhile_append_of_pos h]
        have hhead := hw.head? hrest
        cases hcs : w ++ rest with
        | nil => rfl
        | cons c cs =>
            rw [hcs] at hhead
            simp [hhead c rfl]
      have hspace : ∀ c, (c == ' ' || c == '\t') = true → isBlank c = true := by
        intro c hc
        simp only [Bool.or_eq_true, beq_iff_eq] at hc
        rcases hc with rfl | rfl <;> decide
      have hbrace : ∀ c ∈ rest.head?, (c == ' ' || c == '\t') = false := by
        simp only [hrest, Option.mem_some_iff, forall_eq']
        decide
      obtain ⟨w₁, hw₁, hgap⟩ := hw.dropWhile_append hspace hbrace
      obtain ⟨w₂, hw₂, hbreak⟩ := hw₁.dropLineBreak_append hrest
      refine ⟨w₂, hw₂, ?_⟩
      rw [← hbreak, ← hgap, ← htag]
      rfl

theorem Wrapping.dropClosingReversed_append (hw : Back w) (hrest : rest.head? = some '}') :
    ∃ w', Back w' ∧ dropClosingReversed (w ++ rest) = w' ++ rest := by
  obtain ⟨t, rfl⟩ : ∃ t, rest = '}' :: t := List.head?_eq_some_iff.mp hrest
  cases hw with
  | nil => exact ⟨[], .nil, rfl⟩
  | @blank c w h hw =>
      have htick : c ≠ '`' := by
        rintro rfl
        exact absurd h (by decide)
      exact ⟨_, .blank h hw, by simp [dropClosingReversed, htick]⟩
  | @fence tag w h hw =>
      obtain rfl : tag = [] := List.eq_nil_iff_forall_not_mem.mpr fun c hc => by simpa using h c hc
      cases hw with
      | nil => exact ⟨[], .nil, rfl⟩
      | @fence tag w h' hw => exact ⟨_, .fence h' hw, rfl⟩
      | @blank c w h' hw =>
          by_cases hline : c = '\n'
          · subst hline
            cases hw with
            | nil => exact ⟨[], .nil, rfl⟩
            | @fence tag w h' hw => exact ⟨_, .fence h' hw, rfl⟩
            | @blank d w h' hw =>
                by_cases hreturn : d = '\r'
                · subst hreturn
                  exact ⟨w, hw, rfl⟩
                · exact ⟨_, .blank h' hw, by simp [dropClosingReversed, hreturn]⟩
          · exact ⟨_, .blank h' hw, by simp [dropClosingReversed, hline]⟩

end Steps

section Braced

variable {t cs : List Char}

theorem Braced.dropOpening_leaves (h : Braced t) (hcs : Leaves cs t) :
    Leaves (dropOpening cs) t := by
  obtain ⟨front, back, rfl, hfront, hback⟩ := hcs
  have hhead : (t ++ back).head? = some '{' := by
    rw [List.head?_append, h.front]
    rfl
  obtain ⟨front', hfront', hdrop⟩ := hfront.dropOpening_append hhead
  refine ⟨front', back, ?_, hfront', hback⟩
  rw [List.append_assoc, hdrop, List.append_assoc]

theorem reverse_head? (h : Braced t) (front : List Char) :
    (t.reverse ++ front).head? = some '}' := by
  rw [List.head?_append, List.head?_reverse, h.back]
  rfl

theorem Braced.dropClosing_leaves (h : Braced t) (hcs : Leaves cs t) :
    Leaves (dropClosing cs) t := by
  obtain ⟨front, back, rfl, hfront, hback⟩ := hcs
  obtain ⟨back', hback', hdrop⟩ :=
    hback.reverse.dropClosingReversed_append (reverse_head? h front.reverse)
  refine ⟨front, back'.reverse, ?_, hfront, hback'.reverse⟩
  have hreverse : (front ++ t ++ back).reverse = back.reverse ++ (t.reverse ++ front.reverse) := by
    simp
  rw [dropClosing, hreverse, hdrop]
  simp

theorem Braced.trimChars_leaves (h : Braced t) (hcs : Leaves cs t) :
    Leaves (trimChars cs) t := by
  obtain ⟨front, back, rfl, hfront, hback⟩ := hcs
  have hopen : ∀ c ∈ (t ++ back).head?, isBlank c = false := by
    simp only [List.head?_append, h.front, Option.some_or, Option.mem_some_iff, forall_eq']
    decide
  obtain ⟨front', hfront', hdrop⟩ := hfront.dropWhile_append (fun _ hc => hc) hopen
  have hclose : ∀ c ∈ (t.reverse ++ front'.reverse).head?, isBlank c = false := by
    simp only [reverse_head? h, Option.mem_some_iff, forall_eq']
    decide
  obtain ⟨back', hback', hdrop'⟩ := hback.reverse.dropWhile_append (fun _ hc => hc) hclose
  refine ⟨front', back'.reverse, ?_, hfront', hback'.reverse⟩
  have hreverse : (front' ++ (t ++ back)).reverse =
      back.reverse ++ (t.reverse ++ front'.reverse) := by
    simp
  rw [trimChars, Text.trimWhile, Text.dropEndWhile_eq_rdropWhile, List.append_assoc, hdrop,
    List.rdropWhile, hreverse, hdrop']
  simp

theorem Braced.peelAll_leaves (h : Braced t) (fuel : Nat) (hcs : Leaves cs t) :
    Leaves (peelAll fuel cs) t := by
  induction fuel generalizing cs with
  | zero => exact hcs
  | succ fuel ih =>
      rw [peelAll]
      split
      · exact hcs
      · exact ih (h.trimChars_leaves (h.dropClosing_leaves (h.dropOpening_leaves hcs)))

theorem Braced.unfenceChars_eq (h : Braced t) (hcs : Leaves cs t) : unfenceChars cs = t := by
  have hleaves : Leaves (unfenceChars cs) t := h.peelAll_leaves _ (h.trimChars_leaves hcs)
  have hbare := unfenceChars_bare cs
  obtain ⟨front, back, hout, hfront, hback⟩ := hleaves
  rw [hout] at hbare
  have hnofront : front = [] := by
    refine hfront.eq_nil ?_ ?_
    · intro c hc
      refine hbare.trimmed.front c ?_
      simp [List.head?_append, Option.mem_def.mp hc]
    · rintro ⟨behind, rfl⟩
      exact hbare.unopened ⟨behind ++ t ++ back, by simp⟩
  have hnoback : back.reverse = [] := by
    refine hback.reverse.eq_nil ?_ ?_
    · intro c hc
      rw [List.head?_reverse] at hc
      refine hbare.trimmed.back c ?_
      simp [List.getLast?_append, Option.mem_def.mp hc]
    · intro hticks
      have hsuffix : ['`', '`', '`'] <:+ back := List.reverse_prefix.mp (by simpa using hticks)
      obtain ⟨before, rfl⟩ := hsuffix
      exact hbare.unclosed ⟨front ++ t ++ before, by simp⟩
  rw [hout, hnofront, List.reverse_eq_nil_iff.mp hnoback]
  simp

end Braced

/-! ### Unfencing -/

/-- What is left of a text when its wrapping is gone. -/
structure Unfenced (raw left : List Char) : Prop where
  /-- Repeating the step from the trimmed text on comes to it, as the first text that the step
  does not change. -/
  rounds : ∃ rounds, left = peel^[rounds] (trimChars raw) ∧ peel left = left ∧
    ∀ k < rounds, peel (peel^[k] (trimChars raw)) ≠ peel^[k] (trimChars raw)
  /-- Nothing but wrapping is gone. -/
  between : ∃ front back, raw = front ++ left ++ back ∧ Front front ∧ Back back
  bare : Bare left

theorem unfenceChars_unfenced (cs : List Char) : Unfenced cs (unfenceChars cs) := by
  have hbare := unfenceChars_bare cs
  obtain ⟨rounds, hrounds, hbefore⟩ := peelAll_rounds (cs.length + 1) (trimChars cs)
  exact {
    rounds := ⟨rounds, hrounds, (peel_eq_self_iff _).mpr hbare, hbefore⟩
    between := unfenceChars_leaves cs
    bare := hbare }

/-- **Unfencing removes the wrapping and nothing else.**  What is left is bare, so doing it again
changes nothing, and a text between braces is left whatever wrapping stands around it. -/
theorem unfence_removes_wrapping :
    (∀ raw : String, Unfenced raw.toList (unfence raw).toList ∧
      unfence (unfence raw) = unfence raw) ∧
    ∀ front t back : List Char, Front front → Braced t → Back back →
      unfence (String.ofList (front ++ t ++ back)) = String.ofList t := by
  constructor
  · intro raw
    have htoList : (unfence raw).toList = unfenceChars raw.toList := by
      rw [unfence, String.toList_ofList]
    have hunfenced := unfenceChars_unfenced raw.toList
    rw [← htoList] at hunfenced
    refine ⟨hunfenced, ?_⟩
    conv_lhs => rw [unfence, hunfenced.bare.unfenceChars_eq, String.ofList_toList]
  · intro front t back hfront hbraced hback
    rw [unfence, String.toList_ofList, hbraced.unfenceChars_eq ⟨front, back, rfl, hfront, hback⟩]

/-- Two fences in front, one with a tag, none behind, and an inner fence. -/
theorem unfence_removes_wrapping_unbalanced :
    Front ['`', '`', '`', '`', '`', '`', 'j', 's', '\n'] ∧ Braced ['{', '`', '`', '`', '}'] ∧
      Back ['\r', '\n'] ∧
      unfence (String.ofList (['`', '`', '`', '`', '`', '`', 'j', 's', '\n'] ++
        ['{', '`', '`', '`', '}'] ++ ['\r', '\n'])) =
        String.ofList ['{', '`', '`', '`', '}'] := by
  have hfront : Front ['`', '`', '`', '`', '`', '`', 'j', 's', '\n'] :=
    @Wrapping.fence _ [] _ (List.all_eq_true.mp rfl)
      (@Wrapping.fence _ ['j', 's'] _ (List.all_eq_true.mp rfl)
        (.of_blanks (List.all_eq_true.mp rfl)))
  have hbraced : Braced ['{', '`', '`', '`', '}'] := ⟨rfl, rfl⟩
  have hback : Back ['\r', '\n'] := .of_blanks (List.all_eq_true.mp rfl)
  exact ⟨hfront, hbraced, hback, unfence_removes_wrapping.2 _ _ _ hfront hbraced hback⟩

end Reply

end CommandBar
