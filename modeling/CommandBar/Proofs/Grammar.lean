/-
How a template is written, and that reading finds it.

`Written` is the grammar of templates: which text stands for which template.  Words
are set off by blanks, a group has its alternatives between bars, a field is a dollar
sign and the longest name behind it, and every other character that is no bracket
stands for itself.  A word that is one whole group with an empty alternative is
optional and nothing else.

Reading splits a text before it looks at the parts, by bracket depth, and trims each
alternative.  A balanced text is split into balanced parts that are shorter, and the
blanks that trimming takes off are ones that the grammar allows; so by induction on
the length every balanced text is read, as a template that it is written as.
-/
import CommandBar.Proofs.Brackets
import CommandBar.Proofs.Language
import CommandBar.Proofs.Trim

namespace CommandBar

namespace Phrase

/-! ### The grammar -/

/-- Nothing but blanks. -/
def AllBlank (cs : List Char) : Prop :=
  ∀ c ∈ cs, Text.isBlank c = true

/-- Alternatives in brackets, with bars between them. -/
def grouped (texts : List (List Char)) : List Char :=
  '[' :: (List.intercalate ['|'] texts ++ [']'])

/-- An alternative is a part of what the group holds. -/
theorem infix_intercalate {texts : List (List Char)} {text : List Char} (h : text ∈ texts) :
    text <:+: List.intercalate ['|'] texts := by
  induction texts with
  | nil => exact absurd h (by simp)
  | cons first others ih =>
      cases others with
      | nil => simp [List.mem_singleton.mp h]
      | cons second others =>
          rw [List.intercalate_cons_cons]
          rcases List.mem_cons.mp h with rfl | h
          · rw [List.append_assoc]
            exact (List.prefix_append text _).isInfix
          · exact (ih h).trans (List.suffix_append _ _).isInfix

/-- The text is a word with blanks in front of it and the end or a blank behind it, and then what
follows. -/
def SetOff (isWord follows : List Char → Prop) (cs : List Char) : Prop :=
  ∃ gap text more, cs = gap ++ (text ++ more) ∧ AllBlank gap ∧
    (∀ c ∈ more.head?, Text.isBlank c = true) ∧ isWord text ∧ follows more

/-- The character stands for itself in front of this text. -/
structure IsLiteral (inGroup : Bool) (c : Char) (more : List Char) : Prop where
  bracket : ¬ IsBracket c
  blank : Text.isBlank c = false
  /-- In a group a bar ends the alternative. -/
  bar : inGroup = true → c ≠ '|'
  /-- A dollar sign in front of a name begins a field. -/
  dollar : c = '$' → ∀ d ∈ more.head?, Text.isNameStart d = false

/-- The text is a name, and the one behind it does not go on with it. -/
structure IsName (name more : List Char) : Prop where
  start : ∃ c ∈ name.head?, Text.isNameStart c = true
  chars : ∀ c ∈ name, Text.isWordChar c = true
  ends : ∀ c ∈ more.head?, Text.isWordChar c = false

/-- One of the alternatives is empty. -/
def Choices.HasEmpty : Choices → Prop
  | .done => False
  | .choice template rest => template = .done ∨ rest.HasEmpty

/-- The word is one whole group that has an empty alternative. -/
def Word.IsOptional : Word → Prop
  | .group choices .done => choices.HasEmpty
  | _ => False

mutual

/-- The template is written so; `inGroup` tells whether it is an alternative. -/
def Template.Written (inGroup : Bool) : Template → List Char → Prop
  | .done, cs => AllBlank cs
  | .required word rest, cs =>
    SetOff (fun text => text ≠ [] ∧ word.Written inGroup text ∧ ¬ word.IsOptional)
      (fun more => rest.Written inGroup more) cs
  | .optional choices rest, cs =>
    SetOff
      (fun text => ∃ texts, text = grouped texts ∧ (∃ empty ∈ texts, AllBlank empty) ∧
        choices.Written (texts.filter fun text => !text.all Text.isBlank))
      (fun more => rest.Written inGroup more) cs

/-- The word is written so. -/
def Word.Written (inGroup : Bool) : Word → List Char → Prop
  | .done, cs => cs = []
  | .letter c rest, cs => ∃ more, cs = c :: more ∧ IsLiteral inGroup c more ∧
      rest.Written inGroup more
  | .field name rest, cs => ∃ more, cs = '$' :: (name.toList ++ more) ∧ IsName name.toList more ∧
      rest.Written inGroup more
  | .group choices rest, cs => ∃ texts more, cs = grouped texts ++ more ∧ texts ≠ [] ∧
      choices.Written texts ∧ rest.Written inGroup more

/-- The alternatives are written so, one by one. -/
def Choices.Written : Choices → List (List Char) → Prop
  | .done, texts => texts = []
  | .choice template rest, texts => ∃ text more, texts = text :: more ∧
      template.Written true text ∧ rest.Written more

end

/-! ### Blanks around a template -/

theorem AllBlank.append {front back : List Char} (hfront : AllBlank front) (hback : AllBlank back) :
    AllBlank (front ++ back) := by
  intro c hc
  rcases List.mem_append.mp hc with hc | hc
  · exact hfront c hc
  · exact hback c hc

theorem SetOff.pad {isWord follows : List Char → Prop} {front cs back : List Char}
    (h : SetOff isWord follows cs) (hfront : AllBlank front) (hback : AllBlank back)
    (hfollows : ∀ more, follows more → follows (more ++ back)) :
    SetOff isWord follows (front ++ cs ++ back) := by
  obtain ⟨gap, text, more, rfl, hgap, hmore, htext, hrest⟩ := h
  refine ⟨front ++ gap, text, more ++ back, by simp, hfront.append hgap, ?_, htext,
    hfollows more hrest⟩
  intro c hc
  cases more with
  | nil => exact hback c (List.mem_of_mem_head? hc)
  | cons d more => exact hmore c hc

theorem allBlank_nil : AllBlank [] := by
  intro c hc
  exact absurd hc (by simp)

/-- Blanks around a template do not count. -/
theorem Template.Written.pad {inGroup : Bool} : ∀ {t : Template} {front cs back : List Char},
    t.Written inGroup cs → AllBlank front → AllBlank back →
      t.Written inGroup (front ++ cs ++ back)
  | .done, _, _, _, h, hfront, hback => (hfront.append h).append hback
  | .required _ rest, _, _, _, h, hfront, hback =>
      SetOff.pad h hfront hback fun more hmore =>
        @Template.Written.pad inGroup rest [] more _ hmore allBlank_nil hback
  | .optional _ rest, _, _, _, h, hfront, hback =>
      SetOff.pad h hfront hback fun more hmore =>
        @Template.Written.pad inGroup rest [] more _ hmore allBlank_nil hback

/-! ### Every group has an alternative -/

mutual

theorem Template.Written.full {inGroup : Bool} : ∀ {t : Template} {cs : List Char},
    t.Written inGroup cs → t.Full
  | .done, _, _ => trivial
  | .required _ _, _, h => by
      obtain ⟨gap, text, more, -, -, -, ⟨-, hword, -⟩, hrest⟩ := h
      exact ⟨Word.Written.full hword, Template.Written.full hrest⟩
  | .optional _ _, _, h => by
      obtain ⟨gap, text, more, -, -, -, ⟨texts, -, -, hchoices⟩, hrest⟩ := h
      exact ⟨Choices.Written.full hchoices, Template.Written.full hrest⟩

theorem Word.Written.full {inGroup : Bool} : ∀ {w : Word} {cs : List Char},
    w.Written inGroup cs → w.Full
  | .done, _, _ => trivial
  | .letter _ rest, _, h => by
      obtain ⟨more, -, -, hrest⟩ := h
      show rest.Full
      exact Word.Written.full hrest
  | .field _ rest, _, h => by
      obtain ⟨more, -, -, hrest⟩ := h
      show rest.Full
      exact Word.Written.full hrest
  | .group choices _, _, h => by
      obtain ⟨texts, more, -, hne, hchoices, hrest⟩ := h
      refine ⟨?_, Choices.Written.full hchoices, Word.Written.full hrest⟩
      rintro rfl
      exact hne hchoices

theorem Choices.Written.full : ∀ {choices : Choices} {texts : List (List Char)},
    choices.Written texts → choices.Full
  | .done, _, _ => trivial
  | .choice _ _, _, h => by
      obtain ⟨text, more, -, htemplate, hrest⟩ := h
      exact ⟨Template.Written.full htemplate, Choices.Written.full hrest⟩

end

/-! ### Texts that can be read -/

theorem not_isBracket_of_isBlank (c : Char) (hc : Text.isBlank c = true) : ¬ IsBracket c := by
  rintro (rfl | rfl)
  · exact absurd hc (by decide)
  · exact absurd hc (by decide)

theorem not_isBracket_of_bar (c : Char) (hc : (c == '|') = true) : ¬ IsBracket c := by
  rw [beq_iff_eq] at hc
  rw [hc]
  rintro (h | h)
  · exact absurd h (by decide)
  · exact absurd h (by decide)

theorem AllBlank.depth_eq_zero {cs : List Char} (h : AllBlank cs) : depth cs = 0 :=
  Phrase.depth_eq_zero fun c hc => not_isBracket_of_isBlank c (h c hc)

/-- The text is balanced, and if it is an alternative, no bar in it stands outside of its
groups. -/
structure Shaped (inGroup : Bool) (cs : List Char) : Prop where
  balanced : Balanced cs
  unbarred : inGroup = true → Unsplit (· == '|') 0 cs

theorem Shaped.of_append {inGroup : Bool} {front back : List Char} (hfront : depth front = 0)
    (h : Shaped inGroup (front ++ back)) : Shaped inGroup front ∧ Shaped inGroup back := by
  obtain ⟨hbefore, hbehind⟩ := h.balanced.of_append hfront
  refine ⟨⟨hbefore, fun hin => (h.unbarred hin).of_append.1⟩, ⟨hbehind, fun hin => ?_⟩⟩
  have hunsplit := (h.unbarred hin).of_append.2
  rwa [hfront] at hunsplit

/-- The text is shaped like a template, and no blank in it stands outside of its groups. -/
structure Solid (inGroup : Bool) (cs : List Char) : Prop extends Shaped inGroup cs where
  unspaced : Unsplit Text.isBlank 0 cs

theorem Solid.of_append {inGroup : Bool} {front back : List Char} (hfront : depth front = 0)
    (h : Solid inGroup (front ++ back)) : Solid inGroup front ∧ Solid inGroup back := by
  obtain ⟨hbefore, hbehind⟩ := h.toShaped.of_append hfront
  obtain ⟨hunspaced, hunspaced'⟩ := h.unspaced.of_append
  rw [hfront] at hunspaced'
  exact ⟨⟨hbefore, hunspaced⟩, ⟨hbehind, hunspaced'⟩⟩

theorem Shaped.trimChars {inGroup : Bool} {cs : List Char} (h : Shaped inGroup cs) :
    Shaped inGroup (Text.trimChars cs) := by
  obtain ⟨front, back, hcs, hfront, hback⟩ := Text.trimChars_between cs
  rw [hcs, List.append_assoc] at h
  have hrest := (h.of_append (AllBlank.depth_eq_zero hfront)).2
  have hdepth := hrest.balanced.closed
  rw [depth_append, AllBlank.depth_eq_zero hback, Int.add_zero] at hdepth
  exact (hrest.of_append hdepth).1

theorem trimChars_length_le (cs : List Char) : (Text.trimChars cs).length ≤ cs.length := by
  obtain ⟨front, back, hcs, -, -⟩ := Text.trimChars_between cs
  have hlength := congrArg List.length hcs
  simp only [List.length_append] at hlength
  omega

/-! ### Names -/

theorem isNameStart_toNat {c : Char} (h : Text.isNameStart c = true) :
    (0x41 ≤ c.toNat ∧ c.toNat ≤ 0x5A) ∨ c.toNat = 0x5F ∨ (0x61 ≤ c.toNat ∧ c.toNat ≤ 0x7A) := by
  have hcases : c.isAlpha = true ∨ c = '_' := by
    simpa only [Text.isNameStart, Bool.or_eq_true, beq_iff_eq] using h
  rcases hcases with halpha | rfl
  · rcases Text.isUpper_or_isLower halpha with hupper | hlower
    · exact Or.inl (Text.toNat_of_isUpper hupper)
    · exact Or.inr (Or.inr (Text.toNat_of_isLower hlower))
  · exact Or.inr (Or.inl rfl)

theorem isWordChar_of_isNameStart {c : Char} (h : Text.isNameStart c = true) :
    Text.isWordChar c = true := by
  -- the first four spans of word characters hold every character that starts a name
  have hspans : Text.wordSpans = ⟨0x30, 0x39⟩ :: ⟨0x41, 0x5A⟩ :: ⟨0x5F, 0x5F⟩ :: ⟨0x61, 0x7A⟩ ::
      Text.wordSpans.drop 4 := rfl
  have hrange := isNameStart_toNat h
  rw [Text.isWordChar, hspans]
  generalize Text.wordSpans.drop 4 = others
  simp only [Text.Span.anyHolds]
  grind

theorem not_isBracket_of_isWordChar (c : Char) (hc : Text.isWordChar c = true) :
    ¬ IsBracket c := by
  rintro (rfl | rfl)
  · exact absurd hc (by decide)
  · exact absurd hc (by decide)

theorem fieldName?_eq_some {cs name : List Char} (h : fieldName? cs = some name) :
    ∃ more, cs = name ++ more ∧ IsName name more := by
  cases cs with
  | nil => exact absurd h (by simp [fieldName?])
  | cons c rest =>
      rw [fieldName?] at h
      by_cases hstart : Text.isNameStart c = true
      · rw [if_pos hstart] at h
        obtain rfl := Option.some.inj h
        refine ⟨(c :: rest).dropWhile Text.isWordChar, ?_, ?_, ?_, ?_⟩
        · rw [List.takeWhile_append_dropWhile]
        · rw [List.takeWhile_cons_of_pos (isWordChar_of_isNameStart hstart)]
          exact ⟨c, rfl, hstart⟩
        · exact fun d hd => List.mem_takeWhile_imp hd
        · exact Text.dropWhile_head? _ _
      · rw [if_neg hstart] at h
        exact absurd h (by simp)

theorem fieldName?_eq_none {cs : List Char} (h : fieldName? cs = none) :
    ∀ c ∈ cs.head?, Text.isNameStart c = false := by
  intro c hc
  cases cs with
  | nil => exact absurd hc (by simp)
  | cons d rest =>
      obtain rfl := Option.some.inj hc
      rw [fieldName?] at h
      by_cases hstart : Text.isNameStart d = true
      · rw [if_pos hstart] at h
        exact absurd h (by simp)
      · simpa using hstart

/-! ### Alternatives -/

section Reader

variable {read : List Char → Except Fault Template} {inGroup : Bool}

/-- Alternatives shorter than the bound are read as what they are written as. -/
def Reads (read : List Char → Except Fault Template) (bound : Nat) : Prop :=
  ∀ cs, cs.length < bound → Shaped true cs → ∃ t, read cs = .ok t ∧ t.Written true cs

/-- The pieces between bars, with the bars, are the text. -/
theorem Parts.intercalate {cs : List Char} {texts : List (List Char)}
    (h : Parts (· == '|') cs texts) : List.intercalate ['|'] texts = cs := by
  induction h with
  | last unsplit => simp
  | @more front c rest texts unsplit closed mark parts ih =>
      obtain rfl : c = '|' := by simpa using mark
      obtain ⟨first, others, rfl⟩ : ∃ first others, texts = first :: others := by
        cases parts with
        | last => exact ⟨_, _, rfl⟩
        | more => exact ⟨_, _, rfl⟩
      rw [List.intercalate_cons_cons, ih]
      simp

/-- What stands in a group is made of alternatives that can be read, trimmed. -/
theorem choiceTexts_eq {bound : Nat} (hread : Reads read bound) {inner : List Char}
    (hlength : inner.length < bound) (hbalanced : Balanced inner) :
    ∃ texts, inner = List.intercalate ['|'] texts ∧ texts ≠ [] ∧
      choiceTexts inner = texts.map Text.trimChars ∧
      ∀ text ∈ texts, ∃ t, read (Text.trimChars text) = .ok t ∧ t.Written true text := by
  have hparts := parts_pieces not_isBracket_of_bar inner
  refine ⟨pieces (· == '|') 0 inner, hparts.intercalate.symm, pieces_ne_nil 0 inner, rfl, ?_⟩
  intro text htext
  have hshaped : Shaped true text :=
    ⟨hparts.forall not_isBracket_of_bar (fun _ _ hfront h => h.of_append hfront) hbalanced text
      htext, fun _ => hparts.unsplit text htext⟩
  have hshort := hparts.length_le text htext
  have htrimmed := trimChars_length_le text
  obtain ⟨t, hreads, hwritten⟩ := hread (Text.trimChars text) (by omega) hshaped.trimChars
  obtain ⟨front, back, hsplit, hfront, hback⟩ := Text.trimChars_between text
  refine ⟨t, hreads, ?_⟩
  rw [hsplit]
  exact hwritten.pad hfront hback

theorem readChoices_written {texts : List (List Char)}
    (h : ∀ text ∈ texts, ∃ t, read (Text.trimChars text) = .ok t ∧ t.Written true text) :
    ∃ choices, readChoices read (texts.map Text.trimChars) = .ok choices ∧
      choices.Written texts := by
  induction texts with
  | nil => exact ⟨.done, rfl, rfl⟩
  | cons text texts ih =>
      obtain ⟨t, hreads, hwritten⟩ := h text (by simp)
      obtain ⟨choices, hchoices, hothers⟩ := ih fun other hother => h other (by simp [hother])
      refine ⟨.choice t choices, ?_, text, texts, rfl, hwritten, hothers⟩
      rw [List.map_cons, readChoices, hreads, hchoices]
      rfl

/-! ### Words -/

theorem readParts_skip (word : List Char) (skipped cs : List Char) :
    readParts read word skipped.length (skipped ++ cs) = readParts read word 0 cs := by
  induction skipped with
  | nil => rfl
  | cons c skipped ih => exact ih

theorem Choices.Written.allBlank : ∀ {choices : Choices} {texts : List (List Char)},
    choices.Written texts → choices.HasEmpty → ∃ text ∈ texts, AllBlank text
  | .done, _, _, hempty => absurd hempty id
  | .choice template rest, _, h, hempty => by
      obtain ⟨text, more, rfl, htemplate, hrest⟩ := h
      rcases hempty with rfl | hempty
      · exact ⟨text, by simp, htemplate⟩
      · obtain ⟨other, hother, hblank⟩ := Choices.Written.allBlank hrest hempty
        exact ⟨other, by simp [hother], hblank⟩

section Parts

variable {word rest more : List Char} {w : Word}

theorem readParts_group {inner : List Char} {choices : Choices}
    (hclose : closeGroup? 0 (inner ++ ']' :: more) = some (inner, more))
    (hchoices : readChoices read (choiceTexts inner) = .ok choices)
    (hmore : readParts read word 0 more = .ok w) :
    readParts read word 0 ('[' :: (inner ++ ']' :: more)) = .ok (.group choices w) := by
  have hbehind : readParts read word (inner.length + 1) (inner ++ ']' :: more) = .ok w := by
    have hskip := @readParts_skip read word (inner ++ [']']) more
    rw [List.length_append, List.append_assoc] at hskip
    exact hskip.trans hmore
  rw [readParts, if_pos rfl, hclose]
  simp only [hchoices, hbehind]
  rfl

theorem readParts_field {name : List Char} (hname : fieldName? (name ++ more) = some name)
    (hmore : readParts read word 0 more = .ok w) :
    readParts read word 0 ('$' :: (name ++ more)) = .ok (.field (String.ofList name) w) := by
  rw [readParts, if_neg (by decide), if_pos rfl, hname]
  simp only [readParts_skip, hmore]
  rfl

theorem readParts_letter {c : Char} (hliteral : IsLiteral inGroup c rest)
    (hrest : readParts read word 0 rest = .ok w) :
    readParts read word 0 (c :: rest) = .ok (.letter c w) := by
  have hname : (if c = '$' then fieldName? rest else none) = none := by
    by_cases hc : c = '$'
    · rw [if_pos hc]
      have hstart := hliteral.dollar hc
      cases rest with
      | nil => rfl
      | cons d rest => simp [fieldName?, hstart d rfl]
    · rw [if_neg hc]
  rw [readParts, if_neg fun hc => hliteral.bracket (Or.inl hc), hname, hrest]
  rfl

end Parts

/-- A part stands at the front of a text: the brackets in it are closed in it, and whatever the
text behind it is read as and written as, with the part it makes the word of the whole text.
It makes an optional word only where an optional word would be read. -/
def PartAt (read : List Char → Except Fault Template) (inGroup : Bool) (word : List Char)
    (cs : List Char) : Prop :=
  ∃ (part : Word → Word) (front more : List Char), cs = front ++ more ∧ front ≠ [] ∧
    depth front = 0 ∧
    (∀ w, readParts read word 0 more = .ok w → readParts read word 0 cs = .ok (part w)) ∧
    ∀ w, w.Written inGroup more → (part w).Written inGroup cs ∧
      ((part w).IsOptional → optionalChoices? cs ≠ none)

variable {bound : Nat} {word rest : List Char}

theorem partAt_group (hread : Reads read bound) (hlength : rest.length < bound)
    (hbalanced : Balanced ('[' :: rest)) : PartAt read inGroup word ('[' :: rest) := by
  obtain ⟨inner, after, rfl, hinner, hafter, hclose⟩ := hbalanced.closes
  have hshort : inner.length < bound := by
    simp only [List.length_append] at hlength
    omega
  obtain ⟨texts, hjoined, hne, hpieces, htexts⟩ := choiceTexts_eq hread hshort hinner
  obtain ⟨choices, hchoices, hwritten⟩ := readChoices_written htexts
  refine ⟨.group choices, '[' :: (inner ++ [']']), after, by simp, by simp, ?_, ?_, ?_⟩
  · rw [depth_cons, depth_append, hinner.closed]
    rfl
  · intro w hw
    exact readParts_group hclose (hpieces ▸ hchoices) hw
  · intro w hw
    refine ⟨⟨texts, after, by simp [grouped, hjoined], hne, hwritten, hw⟩, ?_⟩
    intro hoptional
    -- only a group with nothing behind it is an optional word
    cases w with
    | done =>
        obtain rfl : after = [] := hw
        obtain ⟨text, htext, hblank⟩ := hwritten.allBlank hoptional
        have hempty : [] ∈ choiceTexts inner := by
          rw [hpieces, ← Text.trimChars_eq_nil_iff.mpr hblank]
          exact List.mem_map_of_mem htext
        simp [optionalChoices?, wholeGroup?, hclose, hempty]
    | letter => exact absurd hoptional id
    | field => exact absurd hoptional id
    | group => exact absurd hoptional id

theorem partAt_field {name : List Char} (hname : fieldName? rest = some name) :
    PartAt read inGroup word ('$' :: rest) := by
  obtain ⟨more, rfl, hisname⟩ := fieldName?_eq_some hname
  refine ⟨.field (String.ofList name), '$' :: name, more, rfl, by simp, ?_, ?_, ?_⟩
  · refine depth_eq_zero fun c hc => ?_
    rcases List.mem_cons.mp hc with rfl | hc
    · rintro (h | h)
      · exact absurd h (by decide)
      · exact absurd h (by decide)
    · exact not_isBracket_of_isWordChar c (hisname.chars c hc)
  · intro w hw
    exact readParts_field hname hw
  · intro w hw
    refine ⟨⟨more, ?_, ?_, hw⟩, fun hoptional => absurd hoptional id⟩
    · rw [String.toList_ofList]
    · rwa [String.toList_ofList]

theorem partAt_letter {c : Char} (hliteral : IsLiteral inGroup c rest) :
    PartAt read inGroup word (c :: rest) := by
  refine ⟨.letter c, [c], rest, rfl, by simp, ?_, ?_, ?_⟩
  · exact depth_eq_zero (by simpa using hliteral.bracket)
  · intro w hw
    exact readParts_letter hliteral hw
  · intro w hw
    exact ⟨⟨rest, rfl, hliteral, hw⟩, fun hoptional => absurd hoptional id⟩

theorem partAt {c : Char} (hread : Reads read bound) (hlength : rest.length < bound)
    (hsolid : Solid inGroup (c :: rest)) : PartAt read inGroup word (c :: rest) := by
  by_cases hopen : c = '['
  · rw [hopen] at hsolid ⊢
    exact partAt_group hread hlength hsolid.balanced
  · have hclose : c ≠ ']' := by
      rintro rfl
      have hopened := hsolid.balanced.opened [']'] (List.prefix_append [']'] rest)
      exact absurd hopened (by decide)
    cases hname : (if c = '$' then fieldName? rest else none) with
    | some name =>
        by_cases hc : c = '$'
        · rw [hc] at hname ⊢
          exact partAt_field hname
        · rw [if_neg hc] at hname
          exact absurd hname (by simp)
    | none =>
        refine partAt_letter ⟨?_, ?_, ?_, ?_⟩
        · rintro (hc | hc)
          · exact hopen hc
          · exact hclose hc
        · by_contra hblank
          exact (unsplit_cons_iff.mp hsolid.unspaced).1 (by simpa using hblank) rfl
        · rintro hin rfl
          exact (unsplit_cons_iff.mp (hsolid.unbarred hin)).1 rfl rfl
        · intro hc
          rw [if_pos hc] at hname
          exact fieldName?_eq_none hname

/-- **A word is read as what it is written as.** -/
theorem readParts_written (hread : Reads read bound) (word : List Char) {cs : List Char}
    (hlength : cs.length ≤ bound) (hsolid : Solid inGroup cs) :
    ∃ w, readParts read word 0 cs = .ok w ∧ w.Written inGroup cs ∧
      (w.IsOptional → optionalChoices? cs ≠ none) := by
  -- what is left behind a part is shorter
  induction hn : cs.length using Nat.strongRecOn generalizing cs with
  | ind n ih =>
      cases hcs : cs with
      | nil => exact ⟨.done, rfl, rfl, fun hoptional => absurd hoptional id⟩
      | cons c rest =>
          subst hcs
          obtain ⟨part, front, more, hsplit, hne, hflat, hreads, hwritten⟩ :=
            @partAt read inGroup bound word rest c hread hlength hsolid
          have hcount := congrArg List.length hsplit
          have hfront := List.length_pos_iff.mpr hne
          rw [List.length_append] at hcount
          obtain ⟨w, hw, hmore, -⟩ := ih more.length (by omega) (by omega)
            ((hsplit ▸ hsolid).of_append hflat).2 rfl
          exact ⟨part w, hreads w hw, hwritten w hmore⟩

/-! ### Templates -/

theorem wholeGroup?_eq_some {inner : List Char} (hword : Balanced word)
    (h : wholeGroup? word = some inner) : word = '[' :: (inner ++ [']']) ∧ Balanced inner := by
  unfold wholeGroup? at h
  split at h
  · next rest =>
      obtain ⟨inner', after, rfl, hinner, -, hclose⟩ := hword.closes
      rw [hclose] at h
      cases after with
      | nil =>
          obtain rfl : inner' = inner := by simpa using h
          exact ⟨rfl, hinner⟩
      | cons c after => exact absurd h (by simp)
  · exact absurd h (by simp)

theorem optionalChoices?_eq_some {texts : List (List Char)}
    (h : optionalChoices? word = some texts) :
    ∃ inner, wholeGroup? word = some inner ∧ [] ∈ choiceTexts inner ∧
      texts = (choiceTexts inner).filter (!·.isEmpty) := by
  unfold optionalChoices? at h
  split at h
  · next inner hwhole =>
      by_cases hempty : (choiceTexts inner).contains [] = true
      · simp only [if_pos hempty, Option.some.injEq] at h
        exact ⟨inner, hwhole, by simpa using hempty, h.symm⟩
      · simp only [if_neg hempty] at h
        exact absurd h (by simp)
  · exact absurd h (by simp)

/-- The alternatives that trimming does not leave empty are those that are not blank. -/
theorem filter_trimChars (texts : List (List Char)) :
    (texts.map Text.trimChars).filter (!·.isEmpty) =
      (texts.filter fun text => !text.all Text.isBlank).map Text.trimChars := by
  rw [List.filter_map]
  congr 1
  refine List.filter_congr fun text _ => ?_
  have hblank := @Text.trimChars_eq_nil_iff text
  rw [← List.all_eq_true] at hblank
  simp only [Function.comp_apply, Bool.not_inj_iff]
  rw [Bool.eq_iff_iff, List.isEmpty_iff, hblank]

/-- The alternatives of an optional word are read without the empty ones. -/
theorem optionalChoices?_written (hread : Reads read bound) (hlength : word.length ≤ bound)
    (hword : Balanced word) {texts : List (List Char)} (h : optionalChoices? word = some texts) :
    ∃ choices, readChoices read texts = .ok choices ∧
      ∃ texts, word = grouped texts ∧ (∃ empty ∈ texts, AllBlank empty) ∧
        choices.Written (texts.filter fun text => !text.all Text.isBlank) := by
  obtain ⟨inner, hwhole, hempty, rfl⟩ := optionalChoices?_eq_some h
  obtain ⟨rfl, hinner⟩ := wholeGroup?_eq_some hword hwhole
  have hshort : inner.length < bound := by
    simp only [List.length_cons, List.length_append] at hlength
    omega
  obtain ⟨texts, hjoined, -, hpieces, htexts⟩ := choiceTexts_eq hread hshort hinner
  obtain ⟨choices, hchoices, hwritten⟩ :=
    @readChoices_written read (texts.filter fun text => !text.all Text.isBlank)
      fun text htext => htexts text (List.mem_of_mem_filter htext)
  refine ⟨choices, ?_, texts, by rw [grouped, hjoined], ?_, hwritten⟩
  · rw [hpieces, filter_trimChars]
    exact hchoices
  · rw [hpieces] at hempty
    obtain ⟨text, htext, hnil⟩ := List.mem_map.mp hempty
    exact ⟨text, htext, Text.trimChars_eq_nil_iff.mp hnil⟩

/-- One more word in front of a template that is read. -/
theorem readWords_cons_written (hread : Reads read bound) (hne : word ≠ [])
    (hlength : word.length ≤ bound) (hsolid : Solid inGroup word) {texts : List (List Char)}
    {more : List Char} {t : Template} (hmore : ∀ c ∈ more.head?, Text.isBlank c = true)
    (htexts : readWords read texts = .ok t) (hrest : t.Written inGroup more) :
    ∃ t, readWords read (word :: texts) = .ok t ∧ t.Written inGroup (word ++ more) := by
  cases hoptional : optionalChoices? word with
  | some alternatives =>
      obtain ⟨choices, hchoices, hwritten⟩ :=
        optionalChoices?_written hread hlength hsolid.balanced hoptional
      refine ⟨.optional choices t, ?_, [], word, more, rfl, allBlank_nil, hmore, hwritten, hrest⟩
      rw [readWords, hoptional]
      simp only [hchoices, htexts]
      rfl
  | none =>
      obtain ⟨w, hw, hwritten, hrequired⟩ := readParts_written hread word hlength hsolid
      refine ⟨.required w t, ?_, [], word, more, rfl, allBlank_nil, hmore, ⟨hne, hwritten, ?_⟩,
        hrest⟩
      · rw [readWords, hoptional]
        simp only [hw, htexts]
        rfl
      · intro hopt
        exact hrequired hopt hoptional

theorem readWords_written (hread : Reads read bound) {cs : List Char} {texts : List (List Char)}
    (hparts : Parts Text.isBlank cs texts) (hlength : cs.length ≤ bound)
    (hshaped : Shaped inGroup cs) :
    ∃ t, readWords read (texts.filter (!·.isEmpty)) = .ok t ∧ t.Written inGroup cs := by
  induction hparts with
  | @last cs hunsplit =>
      by_cases hne : cs = []
      · subst hne
        exact ⟨.done, rfl, allBlank_nil⟩
      · have hword := @readWords_cons_written read inGroup bound cs hread hne hlength
          ⟨hshaped, hunsplit⟩ [] [] .done (by simp) rfl allBlank_nil
        rw [List.append_nil] at hword
        simpa [List.isEmpty_iff, hne] using hword
  | @more front c rest texts hunsplit hclosed hblank hparts ih =>
      obtain ⟨hfront, hback⟩ := hshaped.of_append hclosed
      have hflat : depth [c] = 0 :=
        depth_eq_zero (by simpa using not_isBracket_of_isBlank c hblank)
      rw [List.length_append, List.length_cons] at hlength
      obtain ⟨t, ht, hwritten⟩ :=
        ih (by omega) (@Shaped.of_append inGroup [c] rest hflat hback).2
      -- the blank that splits belongs to what follows it
      have hpadded : t.Written inGroup ([c] ++ rest ++ []) :=
        hwritten.pad (by simpa [AllBlank] using hblank) allBlank_nil
      rw [List.append_nil] at hpadded
      by_cases hne : front = []
      · subst hne
        exact ⟨t, ht, hpadded⟩
      · have hword := @readWords_cons_written read inGroup bound front hread hne (by omega)
          ⟨hfront, hunsplit⟩ _ (c :: rest) t (by simpa using hblank) ht hpadded
        simpa [List.isEmpty_iff, hne] using hword

end Reader

/-- **A balanced text is read, and as a template that it is written as.** -/
theorem readTemplate_written (fuel : Nat) {inGroup : Bool} {cs : List Char}
    (hlength : cs.length < fuel) (hshaped : Shaped inGroup cs) :
    ∃ t, readTemplate fuel cs = .ok t ∧ t.Written inGroup cs := by
  induction fuel generalizing inGroup cs with
  | zero => exact absurd hlength (by simp)
  | succ fuel ih =>
      have hread : Reads (readTemplate fuel) fuel := fun cs hshort hcs => ih hshort hcs
      exact readWords_written hread (parts_pieces not_isBracket_of_isBlank cs) (by omega) hshaped

theorem ofText_written {text : String} (hbalanced : Balanced text.toList) :
    ∃ t, Template.ofText text = .ok t ∧ t.Written false text.toList := by
  refine readTemplate_written (text.length + 1) ?_ ⟨hbalanced, by simp⟩
  rw [String.length_toList]
  exact Nat.lt_succ_self _

end Phrase

end CommandBar
