/-
Reading inverts writing.

A text that is written as a template is balanced and is read as that template, so it
is written as no other: the grammar of templates is unambiguous, and on balanced texts
it says the same as the reader.

What is written is balanced part by part, and a word has no blank outside of its
groups and an alternative no bar; so splitting finds the words and the alternatives
that were put together.  An alternative is read trimmed, which leaves its words as they
are.
-/
import CommandBar.Proofs.Grammar

namespace CommandBar

namespace Phrase

/-! ### The shape of what is written -/

section Shapes

variable {inGroup : Bool} {front back text : List Char} {texts : List (List Char)}

theorem Shaped.append (hfront : Shaped inGroup front) (hback : Shaped inGroup back) :
    Shaped inGroup (front ++ back) where
  balanced := hfront.balanced.append hback.balanced
  unbarred := by
    intro hin
    refine (hfront.unbarred hin).append ?_
    rw [hfront.balanced.closed]
    exact hback.unbarred hin

theorem Solid.append (hfront : Solid inGroup front) (hback : Solid inGroup back) :
    Solid inGroup (front ++ back) where
  toShaped := hfront.toShaped.append hback.toShaped
  unspaced := by
    refine hfront.unspaced.append ?_
    rw [hfront.balanced.closed]
    exact hback.unspaced

theorem AllBlank.shaped (h : AllBlank text) : Shaped inGroup text where
  balanced := balanced_of_no_bracket fun c hc => not_isBracket_of_isBlank c (h c hc)
  unbarred := by
    intro _
    refine unsplit_of_no_separator fun c hc => beq_eq_false_iff_ne.mpr ?_
    rintro rfl
    exact absurd (h _ hc) (by decide)

theorem solid_nil : Solid inGroup [] where
  toShaped := allBlank_nil.shaped
  unspaced := unsplit_nil 0

theorem IsLiteral.solid {c : Char} (h : IsLiteral inGroup c text) : Solid inGroup [c] where
  balanced := balanced_of_no_bracket (by simpa using h.bracket)
  unbarred := fun hin => unsplit_of_no_separator (by simpa using h.bar hin)
  unspaced := unsplit_of_no_separator (by simpa using h.blank)

theorem isWordChar_of_isBlank {c : Char} (h : Text.isBlank c = true) :
    Text.isWordChar c = false := by
  have hpoints : ∀ n ∈ [0x09, 0x0A, 0x0B, 0x0C, 0x0D, 0x1C, 0x1D, 0x1E, 0x1F, 0x20, 0x85, 0xA0,
      0x1680, 0x2000, 0x2001, 0x2002, 0x2003, 0x2004, 0x2005, 0x2006, 0x2007, 0x2008, 0x2009,
      0x200A, 0x2028, 0x2029, 0x202F, 0x205F, 0x3000],
      Text.Span.anyHolds Text.wordSpans n = false := by
    decide +kernel
  refine hpoints c.toNat ?_
  simp only [Text.isBlank, Bool.or_eq_true, Bool.and_eq_true, decide_eq_true_eq, beq_iff_eq] at h
  simp only [List.mem_cons, List.not_mem_nil, or_false]
  omega

theorem IsName.solid {name : List Char} (h : IsName name text) : Solid inGroup ('$' :: name) where
  balanced := by
    refine balanced_of_no_bracket (List.forall_mem_cons.mpr ⟨?_, ?_⟩)
    · rintro (hc | hc)
      · exact absurd hc (by decide)
      · exact absurd hc (by decide)
    · exact fun c hc => not_isBracket_of_isWordChar c (h.chars c hc)
  unbarred := by
    intro _
    refine unsplit_of_no_separator (List.forall_mem_cons.mpr ⟨rfl, fun c hc => ?_⟩)
    refine beq_eq_false_iff_ne.mpr ?_
    rintro rfl
    exact absurd (h.chars _ hc) (by decide)
  unspaced := by
    refine unsplit_of_no_separator (List.forall_mem_cons.mpr ⟨rfl, fun c hc => ?_⟩)
    cases hblank : Text.isBlank c with
    | false => rfl
    | true => exact absurd (h.chars c hc) (by simp [isWordChar_of_isBlank hblank])

theorem balanced_intercalate (h : ∀ text ∈ texts, Balanced text) :
    Balanced (List.intercalate ['|'] texts) := by
  induction texts with
  | nil => exact balanced_of_no_bracket (by simp)
  | cons text others ih =>
      obtain ⟨htext, hothers⟩ := List.forall_mem_cons.mp h
      cases others with
      | nil => simpa using htext
      | cons other others =>
          have hbar : Balanced ['|'] :=
            balanced_of_no_bracket (by simpa using not_isBracket_of_bar '|' rfl)
          rw [List.intercalate_cons_cons]
          exact (htext.append hbar).append (ih hothers)

theorem solid_grouped (h : ∀ text ∈ texts, Balanced text) : Solid inGroup (grouped texts) where
  balanced := (balanced_intercalate h).group
  unbarred := fun _ => unsplit_group not_isBracket_of_bar (balanced_intercalate h)
  unspaced := unsplit_group not_isBracket_of_isBlank (balanced_intercalate h)

/-- Alternatives are shaped if those are that are not blank. -/
theorem shaped_of_filter
    (h : ∀ text ∈ texts.filter fun text => !text.all Text.isBlank, Shaped inGroup text) :
    ∀ text ∈ texts, Shaped inGroup text := by
  intro text htext
  by_cases hblank : text.all Text.isBlank = true
  · exact AllBlank.shaped (List.all_eq_true.mp hblank)
  · exact h text (List.mem_filter.mpr ⟨htext, by simpa using hblank⟩)

mutual

theorem Template.Written.shaped {inGroup : Bool} : ∀ {t : Template} {cs : List Char},
    t.Written inGroup cs → Shaped inGroup cs
  | .done, _, h => AllBlank.shaped h
  | .required _ _, _, h => by
      obtain ⟨gap, text, more, rfl, hgap, -, ⟨-, hword, -⟩, hrest⟩ := h
      exact hgap.shaped.append
        ((Word.Written.solid hword).toShaped.append (Template.Written.shaped hrest))
  | .optional _ _, _, h => by
      obtain ⟨gap, text, more, rfl, hgap, -, ⟨texts, rfl, -, hchoices⟩, hrest⟩ := h
      have htexts := shaped_of_filter (Choices.Written.shaped hchoices)
      have hgroup := @solid_grouped inGroup texts fun text htext => (htexts text htext).balanced
      exact hgap.shaped.append (hgroup.toShaped.append (Template.Written.shaped hrest))

/-- A word is written without a blank outside of its groups. -/
theorem Word.Written.solid {inGroup : Bool} : ∀ {w : Word} {cs : List Char},
    w.Written inGroup cs → Solid inGroup cs
  | .done, _, h => by
      obtain rfl := h
      exact solid_nil
  | .letter c rest, _, h => by
      obtain ⟨more, rfl, hliteral, hrest⟩ := h
      exact hliteral.solid.append (Word.Written.solid hrest)
  | .field name rest, _, h => by
      obtain ⟨more, rfl, hname, hrest⟩ := h
      exact hname.solid.append (Word.Written.solid hrest)
  | .group choices rest, _, h => by
      obtain ⟨texts, more, rfl, -, hchoices, hrest⟩ := h
      have htexts := fun text htext => (Choices.Written.shaped hchoices text htext).balanced
      exact (solid_grouped htexts).append (Word.Written.solid hrest)

theorem Choices.Written.shaped : ∀ {choices : Choices} {texts : List (List Char)},
    choices.Written texts → ∀ text ∈ texts, Shaped true text
  | .done, _, h => by
      obtain rfl := h
      simp
  | .choice _ _, _, h => by
      obtain ⟨text, more, rfl, htemplate, hrest⟩ := h
      exact List.forall_mem_cons.mpr
        ⟨Template.Written.shaped htemplate, Choices.Written.shaped hrest⟩

end

end Shapes

/-! ### Splitting what is written -/

section Splitting

variable {cs text more : List Char} {texts : List (List Char)}

theorem wordTexts_gap {gap : List Char} (hgap : AllBlank gap) :
    wordTexts (gap ++ cs) = wordTexts cs := by
  induction gap with
  | nil => rfl
  | cons c gap ih =>
      obtain ⟨hc, hgap⟩ := List.forall_mem_cons.mp hgap
      rw [List.cons_append, wordTexts, pieces_cons_separator not_isBracket_of_isBlank hc]
      exact ih hgap

/-- What stands in front of a blank is split off, as a word if it is not empty. -/
theorem wordTexts_append (hclosed : depth text = 0) (hunspaced : Unsplit Text.isBlank 0 text)
    (hmore : ∀ c ∈ more.head?, Text.isBlank c = true) :
    wordTexts (text ++ more) = [text].filter (!·.isEmpty) ++ wordTexts more := by
  have hbehind : ∃ others, pieces Text.isBlank 0 more = [] :: others := by
    cases more with
    | nil => exact ⟨[], rfl⟩
    | cons c more => exact ⟨_, pieces_cons_separator not_isBracket_of_isBlank (hmore c rfl) more⟩
  obtain ⟨others, hothers⟩ := hbehind
  have hfront : pieces Text.isBlank (0 + depth text) more = [] :: others := by
    rw [hclosed]
    exact hothers
  rw [wordTexts, wordTexts, hothers, pieces_append not_isBracket_of_isBlank hunspaced hfront,
    List.append_nil, List.filter_cons]
  split <;> simp_all

/-- The first word is split off, whatever blanks stand in front of it. -/
theorem wordTexts_setOff {inGroup : Bool} {gap : List Char} (hgap : AllBlank gap) (hne : text ≠ [])
    (hsolid : Solid inGroup text) (hmore : ∀ c ∈ more.head?, Text.isBlank c = true) :
    wordTexts (gap ++ (text ++ more)) = text :: wordTexts more := by
  have hkept : [text].filter (!·.isEmpty) = [text] := by simp [hne]
  rw [wordTexts_gap hgap, wordTexts_append hsolid.balanced.closed hsolid.unspaced hmore, hkept]
  rfl

/-- Blanks behind a text add no word. -/
theorem wordTexts_append_blank {back : List Char} (hcs : depth cs = 0) (hback : AllBlank back) :
    wordTexts (cs ++ back) = wordTexts cs := by
  have hnone : wordTexts back = [] := by
    have hgap := @wordTexts_gap [] back hback
    rwa [List.append_nil] at hgap
  have hhead : ∀ c ∈ back.head?, Text.isBlank c = true := fun c hc =>
    hback c (List.mem_of_mem_head? hc)
  -- only the last piece of the text touches the blanks
  have hparts := parts_pieces not_isBracket_of_isBlank cs
  generalize pieces Text.isBlank 0 cs = texts at hparts
  induction hparts with
  | @last cs hunspaced =>
      have hword := wordTexts_append hcs hunspaced hhead
      have halone := @wordTexts_append cs [] hcs hunspaced (by simp)
      rw [List.append_nil] at halone
      rw [hword, halone, hnone]
      rfl
  | @more front c rest texts hunspaced hclosed hblank hparts ih =>
      have hgap : AllBlank [c] := by simpa [AllBlank] using hblank
      have hrest : depth rest = 0 := by
        rw [depth_append, depth_cons, hclosed, hgap.depth_eq_zero] at hcs
        omega
      have hstart : ∀ d ∈ (c :: rest).head?, Text.isBlank d = true := by simpa using hblank
      have hstart' : ∀ d ∈ (c :: rest ++ back).head?, Text.isBlank d = true := by
        simpa using hblank
      rw [List.append_assoc, wordTexts_append hclosed hunspaced hstart,
        wordTexts_append hclosed hunspaced hstart']
      have hrests := ih hrest
      rw [← @wordTexts_gap rest [c] hgap, ← @wordTexts_gap (rest ++ back) [c] hgap] at hrests
      exact congrArg _ hrests

theorem wordTexts_trimChars (hcs : Balanced cs) : wordTexts (Text.trimChars cs) = wordTexts cs := by
  obtain ⟨front, back, hsplit, hfront, hback⟩ := Text.trimChars_between cs
  have htrimmed := (@Shaped.trimChars false cs ⟨hcs, by simp⟩).balanced.closed
  have hwords : wordTexts (front ++ (Text.trimChars cs ++ back)) =
      wordTexts (Text.trimChars cs) := by
    rw [wordTexts_gap hfront, wordTexts_append_blank htrimmed hback]
  rw [← hwords, ← List.append_assoc, ← hsplit]

theorem readTemplate_trimChars (fuel : Nat) (hcs : Balanced cs) :
    readTemplate fuel (Text.trimChars cs) = readTemplate fuel cs := by
  cases fuel with
  | zero => rfl
  | succ fuel => rw [readTemplate, readTemplate, wordTexts_trimChars hcs]

/-- The alternatives are split again where they were joined. -/
theorem choiceTexts_intercalate (hne : texts ≠ []) (h : ∀ text ∈ texts, Shaped true text) :
    choiceTexts (List.intercalate ['|'] texts) = texts.map Text.trimChars := by
  have hpieces : pieces (· == '|') 0 (List.intercalate ['|'] texts) = texts := by
    induction texts with
    | nil => exact absurd rfl hne
    | cons text others ih =>
        obtain ⟨htext, hothers⟩ := List.forall_mem_cons.mp h
        have hunbarred := htext.unbarred rfl
        have hclosed := htext.balanced.closed
        cases others with
        | nil =>
            have hlast : pieces (· == '|') (0 + depth text) [] = [[]] := rfl
            have hsplit := pieces_append not_isBracket_of_bar hunbarred hlast
            simpa using hsplit
        | cons other others =>
            have hmark : pieces (· == '|') (0 + depth text)
                ('|' :: List.intercalate ['|'] (other :: others)) = [] :: other :: others := by
              rw [hclosed]
              exact (pieces_cons_separator not_isBracket_of_bar rfl _).trans
                (congrArg _ (ih (by simp) hothers))
            have hsplit := pieces_append not_isBracket_of_bar hunbarred hmark
            rw [List.intercalate_cons_cons, List.append_assoc]
            simpa using hsplit
  rw [choiceTexts, hpieces]

end Splitting

/-! ### Reading what is written -/

theorem fieldName?_append {name more : List Char} (h : IsName name more) :
    fieldName? (name ++ more) = some name := by
  obtain ⟨c, hc, hstart⟩ := h.start
  cases name with
  | nil => exact absurd hc (by simp)
  | cons d name =>
      obtain rfl := Option.some.inj hc
      have htaken : (d :: name ++ more).takeWhile Text.isWordChar = d :: name := by
        rw [List.takeWhile_append_of_pos h.chars]
        cases more with
        | nil => simp
        | cons e more => simp [List.takeWhile, h.ends e rfl]
      rw [List.cons_append] at htaken ⊢
      rw [fieldName?, if_pos hstart, htaken]

theorem closeGroup?_grouped {texts : List (List Char)} (h : ∀ text ∈ texts, Balanced text)
    (more : List Char) :
    closeGroup? 0 (List.intercalate ['|'] texts ++ ']' :: more) =
      some (List.intercalate ['|'] texts, more) := by
  have hinner := balanced_intercalate h
  refine closeGroup?_append 0 more ?_ ?_
  · intro front hfront
    have hopened := hinner.opened front hfront
    omega
  · rw [hinner.closed]
    rfl

theorem grouped_append (texts : List (List Char)) (more : List Char) :
    grouped texts ++ more = '[' :: (List.intercalate ['|'] texts ++ ']' :: more) := by
  simp [grouped]

theorem wholeGroup?_grouped {texts : List (List Char)} (h : ∀ text ∈ texts, Balanced text)
    (more : List Char) :
    wholeGroup? (grouped texts ++ more) =
      if more = [] then some (List.intercalate ['|'] texts) else none := by
  rw [grouped_append, wholeGroup?, closeGroup?_grouped h]
  cases more with
  | nil => rfl
  | cons c more => rfl

/-- A blank text is written as the empty template only. -/
theorem Template.Written.eq_done {inGroup : Bool} {t : Template} {cs : List Char}
    (h : t.Written inGroup cs) (hblank : AllBlank cs) : t = .done := by
  cases t with
  | done => rfl
  | required word rest =>
      obtain ⟨gap, text, more, rfl, -, -, ⟨hne, hword, -⟩, -⟩ := h
      obtain ⟨c, tail, rfl⟩ := List.exists_cons_of_ne_nil hne
      have hunspaced := (unsplit_cons_iff.mp (Word.Written.solid hword).unspaced).1
      exact absurd rfl (hunspaced (hblank c (by simp)))
  | optional choices rest =>
      obtain ⟨gap, text, more, rfl, -, -, ⟨texts, rfl, -, -⟩, -⟩ := h
      exact absurd (hblank '[' (by simp [grouped])) (by decide)

theorem Choices.Written.hasEmpty : ∀ {choices : Choices} {texts : List (List Char)},
    choices.Written texts → ∀ text ∈ texts, AllBlank text → choices.HasEmpty
  | .done, _, h, text, htext, _ => by
      obtain rfl := h
      exact absurd htext (by simp)
  | .choice _ _, _, h, text, htext, hblank => by
      obtain ⟨first, more, rfl, htemplate, hrest⟩ := h
      rcases List.mem_cons.mp htext with rfl | htext
      · exact Or.inl (htemplate.eq_done hblank)
      · exact Or.inr (Choices.Written.hasEmpty hrest text htext hblank)

/-- A word that reading takes for an optional one is one. -/
theorem Word.Written.isOptional {inGroup : Bool} {w : Word} {cs : List Char}
    (h : w.Written inGroup cs) (hoptional : optionalChoices? cs ≠ none) : w.IsOptional := by
  obtain ⟨taken, htaken⟩ := Option.ne_none_iff_exists'.mp hoptional
  obtain ⟨inner, hwhole, hempty, -⟩ := optionalChoices?_eq_some htaken
  obtain ⟨hcs, -⟩ := wholeGroup?_eq_some (Word.Written.solid h).balanced hwhole
  cases w with
  | done =>
      obtain rfl := h
      exact absurd hcs (by simp)
  | letter c rest =>
      obtain ⟨more, rfl, hliteral, -⟩ := h
      exact absurd (Or.inl (List.cons.inj hcs).1) hliteral.bracket
  | field name rest =>
      obtain ⟨more, rfl, -, -⟩ := h
      exact absurd (List.cons.inj hcs).1 (by decide)
  | group choices rest =>
      obtain ⟨texts, more, rfl, hne, hchoices, hrest⟩ := h
      have hshaped := Choices.Written.shaped hchoices
      rw [wholeGroup?_grouped fun text htext => (hshaped text htext).balanced] at hwhole
      split at hwhole
      · next hmore =>
          subst hmore
          obtain rfl := Option.some.inj hwhole
          rw [choiceTexts_intercalate hne hshaped] at hempty
          obtain ⟨text, htext, hnil⟩ := List.mem_map.mp hempty
          have hhas := hchoices.hasEmpty text htext (Text.trimChars_eq_nil_iff.mp hnil)
          cases rest with
          | done => exact hhas
          | letter c rest =>
              obtain ⟨more, hmore, -⟩ := hrest
              exact absurd hmore (by simp)
          | field name rest =>
              obtain ⟨more, hmore, -⟩ := hrest
              exact absurd hmore (by simp)
          | group choices rest =>
              obtain ⟨texts, more, hmore, -⟩ := hrest
              exact absurd hmore (by simp [grouped])
      · exact absurd hwhole (by simp)

/-- An optional word is taken for one, and its alternatives are those that are not blank. -/
theorem optionalChoices?_grouped {texts : List (List Char)} (h : ∀ text ∈ texts, Shaped true text)
    (hempty : ∃ text ∈ texts, AllBlank text) :
    optionalChoices? (grouped texts) =
      some ((texts.filter fun text => !text.all Text.isBlank).map Text.trimChars) := by
  obtain ⟨text, htext, hblank⟩ := hempty
  have hne : texts ≠ [] := List.ne_nil_of_mem htext
  have hwhole := wholeGroup?_grouped (fun text htext => (h text htext).balanced) []
  rw [List.append_nil, if_pos rfl] at hwhole
  have hcontains : (texts.map Text.trimChars).contains [] = true := by
    rw [List.contains_iff_mem, ← Text.trimChars_eq_nil_iff.mpr hblank]
    exact List.mem_map_of_mem htext
  rw [optionalChoices?, hwhole]
  simp only [choiceTexts_intercalate hne h, hcontains, if_true, filter_trimChars]

theorem length_lt_grouped {texts : List (List Char)} {text : List Char} (h : text ∈ texts) :
    text.length < (grouped texts).length := by
  have hinside := (infix_intercalate h).length_le
  simp only [grouped, List.length_cons, List.length_append]
  omega

mutual

/-- **What is written as a template is read as it.** -/
theorem Template.Written.read {inGroup : Bool} : ∀ {t : Template} {cs : List Char} {fuel : Nat},
    t.Written inGroup cs → cs.length < fuel → readTemplate fuel cs = .ok t
  | _, _, 0, _, hlength => absurd hlength (by simp)
  | .done, cs, fuel + 1, h, _ => by
      have hwords := @wordTexts_gap [] cs h
      rw [List.append_nil] at hwords
      rw [readTemplate, hwords]
      rfl
  | .required word rest, _, fuel + 1, h, hlength => by
      obtain ⟨gap, text, more, rfl, hgap, hmore, ⟨hne, hword, hrequired⟩, hrest⟩ := h
      -- the grammar has no required word that reading would take for an optional one
      have hnone : optionalChoices? text = none := by
        by_contra hoptional
        exact hrequired (hword.isOptional hoptional)
      simp only [List.length_append] at hlength
      have hread := @Word.Written.read _ _ _ fuel text hword (by omega)
      have hreads := @Template.Written.read _ _ _ (fuel + 1) hrest (by omega)
      rw [readTemplate] at hreads
      rw [readTemplate, wordTexts_setOff hgap hne (Word.Written.solid hword) hmore, readWords,
        hnone]
      simp only [hread, hreads]
      rfl
  | .optional choices rest, _, fuel + 1, h, hlength => by
      obtain ⟨gap, text, more, rfl, hgap, hmore, ⟨texts, rfl, hempty, hchoices⟩, hrest⟩ := h
      have hshaped := shaped_of_filter (Choices.Written.shaped hchoices)
      have hsolid := @solid_grouped inGroup texts fun text htext => (hshaped text htext).balanced
      simp only [List.length_append] at hlength
      have hread := @Choices.Written.read _ _ fuel hchoices (by
        intro text htext
        have hshort := length_lt_grouped (List.mem_of_mem_filter htext)
        omega)
      have hreads := @Template.Written.read _ _ _ (fuel + 1) hrest (by omega)
      rw [readTemplate] at hreads
      rw [readTemplate, wordTexts_setOff hgap (by simp [grouped]) hsolid hmore, readWords,
        optionalChoices?_grouped hshaped hempty]
      simp only [hread, hreads]
      rfl

theorem Word.Written.read {inGroup : Bool} : ∀ {w : Word} {cs : List Char} {fuel : Nat}
    (word : List Char), w.Written inGroup cs → cs.length ≤ fuel →
      readParts (readTemplate fuel) word 0 cs = .ok w
  | .done, _, _, _, h, _ => by
      obtain rfl := h
      rfl
  | .letter c rest, _, fuel, word, h, hlength => by
      obtain ⟨more, rfl, hliteral, hrest⟩ := h
      rw [List.length_cons] at hlength
      exact readParts_letter hliteral (Word.Written.read word hrest (by omega))
  | .field name rest, _, fuel, word, h, hlength => by
      obtain ⟨more, rfl, hname, hrest⟩ := h
      simp only [List.length_cons, List.length_append] at hlength
      have hread := Word.Written.read word hrest (by omega : more.length ≤ fuel)
      have hfield := readParts_field (fieldName?_append hname) hread
      rwa [String.ofList_toList] at hfield
  | .group choices rest, _, fuel, word, h, hlength => by
      obtain ⟨texts, more, rfl, hne, hchoices, hrest⟩ := h
      have hshaped := Choices.Written.shaped hchoices
      have hclose := closeGroup?_grouped (fun text htext => (hshaped text htext).balanced) more
      rw [List.length_append] at hlength
      have hread := @Choices.Written.read _ _ fuel hchoices (by
        intro text htext
        have hshort := length_lt_grouped htext
        omega)
      rw [← choiceTexts_intercalate hne hshaped] at hread
      rw [grouped_append]
      exact readParts_group hclose hread (Word.Written.read word hrest (by omega))

theorem Choices.Written.read : ∀ {choices : Choices} {texts : List (List Char)} {fuel : Nat},
    choices.Written texts → (∀ text ∈ texts, text.length < fuel) →
      readChoices (readTemplate fuel) (texts.map Text.trimChars) = .ok choices
  | .done, _, _, h, _ => by
      obtain rfl := h
      rfl
  | .choice _ _, _, fuel, h, hlength => by
      obtain ⟨text, more, rfl, htemplate, hrest⟩ := h
      obtain ⟨htext, hothers⟩ := List.forall_mem_cons.mp hlength
      rw [List.map_cons, readChoices,
        readTemplate_trimChars fuel (Template.Written.shaped htemplate).balanced,
        Template.Written.read htemplate htext, Choices.Written.read hrest hothers]
      rfl

end

/-- **The grammar and the reader agree.**  What is written as a template is what is balanced and
read as it. -/
theorem Template.written_iff {t : Template} {text : String} :
    t.Written false text.toList ↔ Balanced text.toList ∧ Template.ofText text = .ok t := by
  constructor
  · intro h
    refine ⟨(Template.Written.shaped h).balanced, h.read ?_⟩
    rw [String.length_toList]
    exact Nat.lt_succ_self _
  · rintro ⟨hbalanced, hread⟩
    obtain ⟨t', hread', hwritten⟩ := ofText_written hbalanced
    rw [hread] at hread'
    rwa [Except.ok.inj hread']

/-- The word of these letters. -/
def Word.ofLetters (letters : String) : Word :=
  letters.toList.foldr .letter .done

/-- The template of a search, with a word that may be left out. -/
def searchTemplate : Template :=
  .required (.ofLetters "search")
    (.optional (.choice (.required (.ofLetters "youtube") .done) .done)
      (.required (.ofLetters "for") (.required (.field "query" .done) .done)))

theorem searchTemplate_read :
    Template.ofText "search [youtube|] for $query" = .ok searchTemplate := rfl

end Phrase

end CommandBar
