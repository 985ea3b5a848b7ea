/-
Which templates cannot be read.

Reading stops at an opening bracket that nothing closes within its word.  How far the
word reaches is a matter of depth: a blank ends it where as many brackets were closed
before as were opened.  So a text is refused exactly if some opening bracket is still
open at its end, or at such a blank.

As long as no front of the text closes more than it opens, no blank can stand at that
depth behind an open bracket, and to be refused is to be unbalanced.  A closing bracket
without a partner is not noticed: it stands for itself, and behind it the depth is too
small by one, so the group that comes next is torn at its blanks.
-/
import CommandBar.Proofs.Grammar
import CommandBar.Proofs.Template

namespace CommandBar

namespace Phrase

/-- No front of the text closes more brackets than it opens. -/
def Unclosing (cs : List Char) : Prop :=
  ∀ front, front <+: cs → 0 ≤ depth front

instance (cs : List Char) : Decidable (Unclosing cs) :=
  decidable_of_iff (∀ front ∈ cs.inits, 0 ≤ depth front) (by simp only [Unclosing, List.mem_inits])

/-- In the word some bracket is opened that nothing behind it closes. -/
def OpenWord (word : List Char) : Prop :=
  ∃ front inner, word = front ++ '[' :: inner ∧ Unclosing inner

/-- In the text some bracket is opened that nothing closes before the end or before a blank that
has as many brackets closed in front of it as opened. -/
def LeftOpen (cs : List Char) : Prop :=
  ∃ front inner rest, cs = front ++ '[' :: (inner ++ rest) ∧ Unclosing inner ∧
    ∀ c ∈ rest.head?, Text.isBlank c = true ∧ depth (front ++ '[' :: inner) = 0

/-! ### Groups -/

theorem Unclosing.of_append {front back : List Char} (h : Unclosing (front ++ back)) :
    Unclosing front :=
  fun start hstart => h start (hstart.trans (List.prefix_append front back))

theorem closeGroup?_eq_none (opened : Nat) {cs : List Char}
    (h : ∀ front, front <+: cs → 0 ≤ opened + depth front) : closeGroup? opened cs = none := by
  induction cs generalizing opened with
  | nil => rfl
  | cons c cs ih =>
      have hstep := h [c] (List.prefix_append [c] cs)
      obtain ⟨opened', hopened'⟩ := Int.eq_ofNat_of_zero_le hstep
      have hnot : ¬ (c = ']' ∧ opened = 0) := by
        rintro ⟨rfl, rfl⟩
        exact absurd hstep (by decide)
      have hnext : (if c = '[' then opened + 1 else if c = ']' then opened - 1 else opened) =
          opened' := by
        rw [← depthAfter_eq, depthAfter] at hopened'
        grind
      have hrest : ∀ front, front <+: cs → 0 ≤ opened' + depth front := by
        intro front hfront
        have hlonger := h (c :: front) ((List.prefix_cons_inj c).mpr hfront)
        rw [depth_cons] at hlonger
        omega
      rw [closeGroup?, if_neg hnot]
      simp only [hnext, ih opened' hrest, Option.map_none]

/-- Behind an opening bracket there is a balanced text up to where it is closed, unless it stays
open. -/
theorem closeGroup?_cases (rest : List Char) :
    (Unclosing rest ∧ closeGroup? 0 rest = none) ∨
      ∃ inner after, rest = inner ++ ']' :: after ∧ Balanced inner ∧
        closeGroup? 0 rest = some (inner, after) := by
  by_cases h : Unclosing rest
  · exact Or.inl ⟨h, closeGroup?_eq_none 0 (by simpa [Unclosing] using h)⟩
  · refine Or.inr ?_
    simp only [Unclosing, not_forall] at h
    obtain ⟨front, ⟨back, rfl⟩, hfront⟩ := h
    obtain ⟨inner, after, rfl, hfronts, hclosed⟩ :=
      @exists_closing 0 front (by omega)
    refine ⟨inner, after ++ back, by simp, ⟨by simpa using hfronts, by simpa using hclosed⟩, ?_⟩
    rw [List.append_assoc]
    exact closeGroup?_append 0 (after ++ back) hfronts hclosed

/-! ### Words -/

section Words

variable {front back : List Char}

theorem OpenWord.append (h : OpenWord back) (front : List Char) : OpenWord (front ++ back) := by
  obtain ⟨before, inner, rfl, hinner⟩ := h
  exact ⟨front ++ before, inner, by simp, hinner⟩

theorem OpenWord.of_append (h : OpenWord (front ++ back)) : OpenWord front ∨ OpenWord back := by
  obtain ⟨before, inner, hsplit, hinner⟩ := h
  rcases List.append_eq_append_iff.mp hsplit with ⟨middle, hbefore, hback⟩ | ⟨middle, hfront, hrest⟩
  · exact Or.inr ⟨middle, inner, hback, hinner⟩
  · cases middle with
    | nil => exact Or.inr ⟨[], inner, hrest.symm, hinner⟩
    | cons c middle =>
        obtain ⟨rfl, rfl⟩ := List.cons.inj hrest
        exact Or.inl ⟨before, middle, hfront, hinner.of_append⟩

/-- A part in which every bracket is closed can be left out. -/
theorem openWord_append_iff (h : ¬ OpenWord front) : OpenWord (front ++ back) ↔ OpenWord back :=
  ⟨fun hword => hword.of_append.resolve_left h, fun hback => hback.append front⟩

theorem not_openWord_of_not_mem (h : '[' ∉ front) : ¬ OpenWord front := by
  rintro ⟨before, inner, rfl, -⟩
  exact h (by simp)

theorem Balanced.not_openWord (h : Balanced front) : ¬ OpenWord front := by
  rintro ⟨before, inner, rfl, hinner⟩
  have hbefore := h.opened before (List.prefix_append before _)
  have hclosed := h.closed
  have hinside := hinner inner (List.prefix_refl inner)
  rw [depth_append, depth_cons, show depth ['['] = 1 from rfl] at hclosed
  omega

/-- What opens more brackets than it closes leaves one open. -/
theorem openWord_of_depth_pos {word : List Char} (h : 0 < depth word) : OpenWord word := by
  induction hn : word.length using Nat.strongRecOn generalizing word with
  | ind n ih =>
      cases word with
      | nil => exact absurd h (by decide)
      | cons c rest =>
          rw [List.length_cons] at hn
          by_cases hrest : 0 < depth rest
          · exact (ih rest.length (by omega) hrest rfl).append [c]
          · -- the first character opens a bracket, and if that is closed, then too much is
            have hc : c = '[' := by
              rw [depth_cons, ← Int.zero_add (depth [c]), ← depthAfter_eq, depthAfter] at h
              grind
            subst hc
            by_cases hinner : Unclosing rest
            · exact ⟨[], rest, rfl, hinner⟩
            · simp only [Unclosing, not_forall] at hinner
              obtain ⟨front, ⟨back, rfl⟩, hfront⟩ := hinner
              rw [depth_cons, depth_append, show depth ['['] = 1 from rfl] at h
              rw [List.length_append] at hn
              exact (ih back.length (by omega) (by omega) rfl).append ('[' :: front)

theorem wholeGroup?_balanced {word inner : List Char} (h : wholeGroup? word = some inner) :
    Balanced word := by
  unfold wholeGroup? at h
  split at h
  · next rest =>
      rcases closeGroup?_cases rest with ⟨-, hnone⟩ | ⟨inner', after, rfl, hinner, hclose⟩
      · rw [hnone] at h
        exact absurd h (by simp)
      · rw [hclose] at h
        cases after with
        | nil => exact hinner.group
        | cons c after => exact absurd h (by simp)
  · exact absurd h (by simp)

end Words

/-! ### Reading -/

section Reader

variable {read : List Char → Except Fault Template} {bound : Nat} {inGroup : Bool}

/-- The alternatives in a group are always read: the group closes, so what it holds is balanced. -/
theorem readChoices_group (hread : Reads read bound) {inner : List Char}
    (hlength : inner.length < bound) (hinner : Balanced inner) :
    ∃ choices, readChoices read (choiceTexts inner) = .ok choices := by
  obtain ⟨texts, -, -, hpieces, htexts⟩ := choiceTexts_eq hread hlength hinner
  obtain ⟨choices, hchoices, -⟩ := readChoices_written htexts
  exact ⟨choices, hpieces ▸ hchoices⟩

/-- What comes of the parts in front does not stop the reading of a word; only the rest can. -/
theorem readParts_front (hread : Reads read bound) (word : List Char) {c : Char}
    {rest : List Char} (hlength : rest.length < bound) (hclosed : c = '[' → ¬ Unclosing rest) :
    ∃ front more, c :: rest = front ++ more ∧ front ≠ [] ∧ ¬ OpenWord front ∧
      ((∃ w, readParts read word 0 (c :: rest) = .ok w) ↔
        ∃ w, readParts read word 0 more = .ok w) := by
  by_cases hopen : c = '['
  · subst hopen
    rcases closeGroup?_cases rest with ⟨hrest, -⟩ | ⟨inner, after, rfl, hinner, hclose⟩
    · exact absurd hrest (hclosed rfl)
    · rw [List.length_append] at hlength
      obtain ⟨choices, hchoices⟩ := @readChoices_group read bound hread inner (by omega) hinner
      have hskip : readParts read word (inner.length + 1) (inner ++ ']' :: after) =
          readParts read word 0 after := by
        simpa using @readParts_skip read word (inner ++ [']']) after
      refine ⟨'[' :: (inner ++ [']']), after, by simp, by simp, hinner.group.not_openWord, ?_⟩
      rw [readParts, if_pos rfl, hclose]
      simp only [hchoices, hskip, bind_eq_ok_iff]
      simp
  · cases hname : (if c = '$' then fieldName? rest else none) with
    | some name =>
        obtain rfl : c = '$' := by
          by_contra hc
          rw [if_neg hc] at hname
          exact absurd hname (by simp)
        obtain ⟨more, rfl, hisname⟩ := fieldName?_eq_some hname
        have hclosed : '[' ∉ '$' :: name := by
          intro hmem
          rcases List.mem_cons.mp hmem with hc | hmem
          · exact absurd hc (by decide)
          · exact not_isBracket_of_isWordChar _ (hisname.chars _ hmem) (Or.inl rfl)
        refine ⟨'$' :: name, more, rfl, by simp, not_openWord_of_not_mem hclosed, ?_⟩
        rw [readParts, if_neg hopen, hname]
        simp only [readParts_skip, bind_eq_ok_iff]
        simp
    | none =>
        refine ⟨[c], rest, rfl, by simp, not_openWord_of_not_mem (by simpa using Ne.symm hopen), ?_⟩
        rw [readParts, if_neg hopen, hname]
        simp only [bind_eq_ok_iff]
        simp

/-- **The parts of a word are read exactly if every bracket in it is closed.** -/
theorem readParts_ok_iff (hread : Reads read bound) (word : List Char) {cs : List Char}
    (hlength : cs.length ≤ bound) :
    (∃ w, readParts read word 0 cs = .ok w) ↔ ¬ OpenWord cs := by
  -- what is left behind a part is shorter
  induction hn : cs.length using Nat.strongRecOn generalizing cs with
  | ind n ih =>
      cases cs with
      | nil => exact iff_of_true ⟨.done, rfl⟩ (not_openWord_of_not_mem (by simp))
      | cons c rest =>
          by_cases hopen : c = '[' ∧ Unclosing rest
          · obtain ⟨rfl, hrest⟩ := hopen
            refine iff_of_false ?_ (not_not_intro ⟨[], rest, rfl, hrest⟩)
            rw [readParts, if_pos rfl, closeGroup?_eq_none 0 (by simpa [Unclosing] using hrest)]
            simp
          · obtain ⟨front, more, hsplit, hne, hfront, hreads⟩ :=
              @readParts_front read bound hread word c rest hlength (not_and.mp hopen)
            have hcount := congrArg List.length hsplit
            have hpos := List.length_pos_iff.mpr hne
            rw [List.length_append] at hcount
            rw [hreads, hsplit, openWord_append_iff hfront]
            exact ih more.length (by omega) (by omega) rfl

/-- An optional word is a balanced group, so its alternatives are read. -/
theorem readChoices_optional (hread : Reads read bound) {word : List Char}
    (hlength : word.length ≤ bound) {texts : List (List Char)}
    (h : optionalChoices? word = some texts) :
    ¬ OpenWord word ∧ ∃ choices, readChoices read texts = .ok choices := by
  obtain ⟨inner, hwhole, -⟩ := optionalChoices?_eq_some h
  have hword := wholeGroup?_balanced hwhole
  obtain ⟨choices, hchoices, -⟩ := optionalChoices?_written hread hlength hword h
  exact ⟨hword.not_openWord, choices, hchoices⟩

theorem readWords_ok_iff (hread : Reads read bound) {words : List (List Char)}
    (hlength : ∀ word ∈ words, word.length ≤ bound) :
    (∃ t, readWords read words = .ok t) ↔ ∀ word ∈ words, ¬ OpenWord word := by
  induction words with
  | nil => exact iff_of_true ⟨.done, rfl⟩ (by simp)
  | cons word rest ih =>
      obtain ⟨hword, hothers⟩ := List.forall_mem_cons.mp hlength
      rw [List.forall_mem_cons, ← ih hothers, readWords]
      split
      · next texts hoptional =>
          obtain ⟨hclosed, choices, hchoices⟩ := readChoices_optional hread hword hoptional
          simp only [hchoices, bind_eq_ok_iff]
          simpa using fun _ _ => hclosed
      · rw [← readParts_ok_iff hread word hword]
        simp only [bind_eq_ok_iff]
        simp

end Reader

/-! ### The words of a text -/

section Texts

variable {cs : List Char}

/-- In a text that is one word, only the end can leave a bracket open. -/
theorem leftOpen_iff_of_unsplit (h : Unsplit Text.isBlank 0 cs) : LeftOpen cs ↔ OpenWord cs := by
  constructor
  · rintro ⟨front, inner, rest, rfl, hinner, hends⟩
    cases rest with
    | nil => exact ⟨front, inner, by simp, hinner⟩
    | cons c more =>
        obtain ⟨hblank, hdepth⟩ := hends c rfl
        have hsplit := h (front ++ '[' :: inner) c more (by simp) hblank
        omega
  · rintro ⟨front, inner, rfl, hinner⟩
    exact ⟨front, inner, [], by simp, hinner, by simp⟩

/-- A word at the front, up to a blank that ends it, and what follows are looked at apart. -/
theorem leftOpen_cons_iff {front rest : List Char} {c : Char}
    (hunsplit : Unsplit Text.isBlank 0 front) (hclosed : depth front = 0)
    (hblank : Text.isBlank c = true) :
    LeftOpen (front ++ c :: rest) ↔ OpenWord front ∨ LeftOpen rest := by
  have hflat : depth [c] = 0 := depth_eq_zero (by simpa using not_isBracket_of_isBlank c hblank)
  constructor
  · rintro ⟨before, inner, behind, hsplit, hinner, hends⟩
    have hc : c ≠ '[' := fun hc => not_isBracket_of_isBlank c hblank (Or.inl hc)
    rcases List.append_eq_append_iff.mp hsplit with
      ⟨middle, rfl, hrest⟩ | ⟨middle, rfl, hgroup⟩
    · -- the bracket stands behind the blank
      cases middle with
      | nil => exact absurd (List.cons.inj hrest).1 hc
      | cons d middle =>
          obtain ⟨rfl, rfl⟩ := List.cons.inj hrest
          refine Or.inr ⟨middle, inner, behind, rfl, hinner, fun e he => ?_⟩
          obtain ⟨he, hdepth⟩ := hends e he
          rw [List.append_assoc, List.cons_append, depth_append, depth_cons, hclosed,
            hflat] at hdepth
          exact ⟨he, by omega⟩
    · -- it stands in the word, which the blank ends at the latest
      cases middle with
      | nil => exact absurd (List.cons.inj hgroup).1.symm hc
      | cons d middle =>
          obtain ⟨rfl, hinside⟩ := List.cons.inj hgroup
          refine Or.inl ⟨before, middle, rfl, ?_⟩
          rcases List.append_eq_append_iff.mp hinside with ⟨more, rfl, hbehind⟩ | ⟨more, rfl, -⟩
          · cases more with
            | nil => simpa using hinner
            | cons e more =>
                obtain ⟨he, hdepth⟩ := hends e (by simp [hbehind])
                have hnever := hunsplit (before ++ '[' :: inner) e more (by simp) he
                omega
          · exact hinner.of_append
  · rintro (⟨before, inner, rfl, hinner⟩ | ⟨before, inner, behind, rfl, hinner, hends⟩)
    · refine ⟨before, inner, c :: rest, by simp, hinner, ?_⟩
      simpa using ⟨hblank, hclosed⟩
    · refine ⟨front ++ c :: before, inner, behind, by simp, hinner, fun d hd => ?_⟩
      obtain ⟨hd, hdepth⟩ := hends d hd
      refine ⟨hd, ?_⟩
      rw [List.append_assoc, List.cons_append, depth_append, depth_cons, hclosed, hflat, hdepth]
      rfl

/-- **A text leaves a bracket open exactly if one of its words does.** -/
theorem leftOpen_iff (cs : List Char) : LeftOpen cs ↔ ∃ word ∈ wordTexts cs, OpenWord word := by
  have hpieces : LeftOpen cs ↔ ∃ word ∈ pieces Text.isBlank 0 cs, OpenWord word := by
    have hparts := parts_pieces not_isBracket_of_isBlank cs
    generalize pieces Text.isBlank 0 cs = texts at hparts
    induction hparts with
    | last hunsplit => simpa using leftOpen_iff_of_unsplit hunsplit
    | @more front c rest texts hunsplit hclosed hblank _ ih =>
        have hrest : OpenWord front ∨ LeftOpen rest ↔
            OpenWord front ∨ ∃ word ∈ texts, OpenWord word := or_congr Iff.rfl ih
        simpa only [List.mem_cons, exists_eq_or_imp] using
          (leftOpen_cons_iff hunsplit hclosed hblank).trans hrest
  rw [hpieces]
  constructor
  · rintro ⟨word, hword, hopen⟩
    have hne : word ≠ [] := by
      rintro rfl
      exact not_openWord_of_not_mem (by simp) hopen
    exact ⟨word, List.mem_filter.mpr ⟨hword, by simpa using hne⟩, hopen⟩
  · rintro ⟨word, hword, hopen⟩
    exact ⟨word, List.mem_of_mem_filter hword, hopen⟩

/-- A text that closes all that it opens leaves no bracket open. -/
theorem Balanced.not_leftOpen (h : Balanced cs) : ¬ LeftOpen cs := by
  rintro ⟨front, inner, rest, rfl, hinner, hends⟩
  have hfront := h.opened front (List.prefix_append front _)
  have hinside := hinner inner (List.prefix_refl inner)
  have hdepth : depth (front ++ '[' :: inner) = 0 := by
    cases rest with
    | nil => simpa using h.closed
    | cons c more => exact (hends c rfl).2
  rw [depth_append, depth_cons, show depth ['['] = 1 from rfl] at hdepth
  omega

/-- While no front closes more than it opens, a text leaves a bracket open if it is not balanced. -/
theorem Unclosing.leftOpen_iff (h : Unclosing cs) : LeftOpen cs ↔ ¬ Balanced cs := by
  refine ⟨fun hopen hbalanced => hbalanced.not_leftOpen hopen, fun hunbalanced => ?_⟩
  have hdepth : depth cs ≠ 0 := fun hclosed => hunbalanced ⟨h, hclosed⟩
  have hopened := h cs (List.prefix_refl cs)
  obtain ⟨front, inner, rfl, hinner⟩ := openWord_of_depth_pos (by omega : 0 < depth cs)
  exact ⟨front, inner, [], by simp, hinner, by simp⟩

end Texts

/-! ### Templates -/

theorem Template.ofText_ok_iff (text : String) :
    (∃ t, Template.ofText text = .ok t) ↔ ¬ LeftOpen text.toList := by
  have hread : Reads (readTemplate text.length) text.length := fun cs hlength hcs =>
    readTemplate_written text.length hlength hcs
  have hwords : ∀ word ∈ wordTexts text.toList, word.length ≤ text.length := by
    intro word hword
    have hlength := (parts_pieces not_isBracket_of_isBlank text.toList).length_le word
      (List.mem_of_mem_filter hword)
    rwa [String.length_toList] at hlength
  rw [leftOpen_iff, Template.ofText, readTemplate, readWords_ok_iff hread hwords]
  simp

/-- **What a template is refused for.**  It is refused exactly if a bracket is left open in one of
its words, and with the fault that names the word.  So a balanced text is always read; and as long
as no front of a text closes more than it opens, every other one is refused. -/
theorem Template.ofText_refuses_iff (text : String) :
    StopsWith Fault.IsUnbalanced (Template.ofText text) ∧
      ((∃ fault, Template.ofText text = .error fault) ↔ LeftOpen text.toList) ∧
      (Balanced text.toList → ∃ t, Template.ofText text = .ok t) ∧
      (Unclosing text.toList →
        ((∃ fault, Template.ofText text = .error fault) ↔ ¬ Balanced text.toList)) := by
  have hrefuses : (∃ fault, Template.ofText text = .error fault) ↔ LeftOpen text.toList := by
    have hok := Template.ofText_ok_iff text
    cases hread : Template.ofText text with
    | ok t => simp_all
    | error fault => simp_all
  refine ⟨Template.ofText_stops text, hrefuses, ?_, ?_⟩
  · intro hbalanced
    exact (Template.ofText_ok_iff text).mpr hbalanced.not_leftOpen
  · intro hunclosing
    rw [hrefuses]
    exact hunclosing.leftOpen_iff

/-- An example: a phrase whose group is not closed is refused, and one whose group is closed is
read. -/
theorem Template.ofText_refuses_iff_youtube :
    Unclosing "search [youtube for $query".toList ∧
      (∃ fault, Template.ofText "search [youtube for $query" = .error fault) ∧
      Balanced "search [youtube|] for $query".toList ∧
      ∃ t, Template.ofText "search [youtube|] for $query" = .ok t := by
  have hunclosing : Unclosing "search [youtube for $query".toList := by decide +kernel
  have hunbalanced : ¬ Balanced "search [youtube for $query".toList := by decide +kernel
  have hbalanced : Balanced "search [youtube|] for $query".toList := by decide +kernel
  obtain ⟨-, -, -, hrefuses⟩ := Template.ofText_refuses_iff "search [youtube for $query"
  obtain ⟨-, -, hreads, -⟩ := Template.ofText_refuses_iff "search [youtube|] for $query"
  exact ⟨hunclosing, (hrefuses hunclosing).mpr hunbalanced, hbalanced, hreads hbalanced⟩

/-- A closing bracket without a partner is not noticed, it is read as a letter. -/
theorem Template.ofText_takes_stray :
    ¬ Balanced "a]".toList ∧
      Template.ofText "a]" = .ok (.required (.letter 'a' (.letter ']' .done)) .done) :=
  ⟨by decide +kernel, by cbv⟩

end Phrase

end CommandBar
