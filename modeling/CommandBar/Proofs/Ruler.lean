/-
Templates that measure a text.

For every text that does not begin with a blank there is a template that is laid over
it like a ruler: it has a place for each character, a field for some of the characters
and a gap for some of the blanks.  Every place takes at least one character; so where
the whole text is as long as the ruler, each place takes the character that it was made
for, and where it is shorter, nothing is found.

A gap behind a gap cannot be written, as the blanks of a template between two words are
one gap.  So each gap of a ruler sets off a word that begins with a group for nothing,
`[[]]`, which takes no character, or more blanks.
-/
import CommandBar.Proofs.Reading
import CommandBar.Proofs.Searched

namespace CommandBar

namespace Phrase

open Pattern (ofSteps)

/-- A character and its place on a ruler. -/
inductive Mark
  | field (name : String) (c : Char)
  | gap (c : Char)

namespace Mark

/-- The character that the place is made for. -/
def char : Mark → Char
  | .field _ c => c
  | .gap c => c

/-- How the place is written. -/
def written : Mark → List Char
  | .field name _ => '$' :: name.toList
  | .gap _ => " [[]]".toList

/-- The steps of the place. -/
def steps : Mark → List Pattern
  | .field name _ => [.field name]
  | .gap _ => [.blanks, .either (ofSteps [.blanks]) .empty]

/-- What the place holds if it takes its character. -/
def capture? : Mark → Option (String × List Char)
  | .field name c => some (name, [c])
  | .gap _ => none

/-- The place can take its character. -/
def Suits : Mark → Prop
  | .field _ c => c ≠ '\n'
  | .gap c => Text.isBlank c = true

/-- The name of a field can be written. -/
def Writable : Mark → Prop
  | .field name _ => IsName name.toList []
  | .gap _ => True

end Mark

/-- A group for nothing: its alternative is an optional word that has no alternative. -/
def Choices.void : Choices :=
  .choice (.optional .done .done) .done

/-- The first word with the places up to a gap, and the words behind it, one for each gap. -/
def ruled : List Mark → Word × Template
  | [] => (.done, .done)
  | .field name _ :: marks => (.field name (ruled marks).1, (ruled marks).2)
  | .gap _ :: marks => (.done, .required (.group .void (ruled marks).1) (ruled marks).2)

/-- The template with these places. -/
def ruler (marks : List Mark) : Template :=
  .required (ruled marks).1 (ruled marks).2

variable {marks : List Mark}

/-! ### How a ruler is written -/

theorem Choices.void_written : Choices.void.Written ["[]".toList] := by
  refine ⟨"[]".toList, [], rfl, ?_, rfl⟩
  refine ⟨[], "[]".toList, [], rfl, allBlank_nil, by simp, ?_, allBlank_nil⟩
  exact ⟨[[]], rfl, ⟨[], by simp, allBlank_nil⟩, rfl⟩

theorem ruled_written (hnames : ∀ mark ∈ marks, mark.Writable) :
    ∃ word more, marks.flatMap Mark.written = word ++ more ∧ (∀ c ∈ word.head?, c = '$') ∧
      (∀ c ∈ more.head?, Text.isBlank c = true) ∧ (ruled marks).1.Written false word ∧
      (ruled marks).2.Written false more := by
  induction marks with
  | nil => exact ⟨[], [], rfl, by simp, by simp, rfl, allBlank_nil⟩
  | cons mark marks ih =>
      obtain ⟨hname, hothers⟩ := List.forall_mem_cons.mp hnames
      obtain ⟨word, more, htext, hfront, hblank, hword, hmore⟩ := ih hothers
      rw [List.flatMap_cons, htext]
      cases mark with
      | field name c =>
          refine ⟨'$' :: (name.toList ++ word), more, by simp [Mark.written], by simp, hblank, ?_,
            hmore⟩
          refine ⟨word, rfl, ⟨hname.start, hname.chars, fun c hc => ?_⟩, hword⟩
          rw [hfront c hc]
          decide
      | gap c =>
          refine ⟨[], " [[]]".toList ++ (word ++ more), rfl, by simp, ?_, rfl, ?_⟩
          · intro c hc
            obtain rfl : ' ' = c := Option.some.inj hc
            decide
          · refine ⟨[' '], "[[]]".toList ++ word, more, rfl, ?_, hblank, ⟨by simp, ?_, ?_⟩, hmore⟩
            · exact List.forall_mem_singleton.mpr rfl
            · exact ⟨["[]".toList], word, rfl, by simp, Choices.void_written, hword⟩
            · intro hoptional
              cases hw : (ruled marks).1 with
              | done =>
                  rw [hw] at hoptional
                  exact absurd hoptional (by simp [Word.IsOptional, Choices.HasEmpty, Choices.void])
              | letter | field | group =>
                  rw [hw] at hoptional
                  exact hoptional

/-- **Every ruler that begins with a field is the template of a text.** -/
theorem ofText_ruler (hfirst : ∃ name c, Mark.field name c ∈ marks.head?)
    (hnames : ∀ mark ∈ marks, mark.Writable) :
    ∃ text, Template.ofText text = .ok (ruler marks) := by
  obtain ⟨name, c, hhead⟩ := hfirst
  obtain ⟨marks, rfl⟩ := List.head?_eq_some_iff.mp hhead
  obtain ⟨word, more, htext, -, hblank, hword, hmore⟩ := ruled_written hnames
  refine ⟨String.ofList (word ++ more), (Template.written_iff.mp ?_).2⟩
  rw [String.toList_ofList]
  have hne : word ≠ [] := by
    rintro rfl
    obtain ⟨_, h, -⟩ := hword
    exact absurd h (by simp)
  exact ⟨[], word, more, rfl, allBlank_nil, hblank, ⟨hne, hword, id⟩, hmore⟩

/-! ### What a ruler takes -/

theorem ruled_steps (marks : List Mark) :
    (ruled marks).1.steps ++ (ruled marks).2.steps true = marks.flatMap Mark.steps := by
  induction marks with
  | nil => rfl
  | cons mark marks ih =>
      rw [List.flatMap_cons, ← ih]
      cases mark <;> rfl

theorem ruler_pattern (marks : List Mark) :
    (ruler marks).pattern = ofSteps (marks.flatMap Mark.steps) :=
  congrArg ofSteps (ruled_steps marks)

theorem ruler_plain (marks : List Mark) : (ruler marks).pattern.Plain := by
  rw [ruler_pattern]
  induction marks with
  | nil => trivial
  | cons mark marks ih =>
      rw [List.flatMap_cons]
      cases mark with
      | field name c => exact ⟨trivial, ih⟩
      | gap c => exact ⟨trivial, ⟨⟨trivial, trivial⟩, trivial⟩, ih⟩

theorem Mark.field_takes {name : String} {c : Char} {ps : List Piece}
    (h : (ofSteps (Mark.field name c).steps).Takes ps) : ∃ text, ps = [.held name text] := by
  obtain ⟨text, hps, -⟩ := (Pattern.ofSteps_singleton_takes _ ps).mp h
  exact ⟨text, hps⟩

theorem Mark.gap_takes {c : Char} {ps : List Piece}
    (h : (ofSteps (Mark.gap c).steps).Takes ps) :
    ps ≠ [] ∧ ∀ piece ∈ ps, piece.isGap = true := by
  obtain ⟨first, rest, rfl, ⟨gap, rfl, -⟩, hrest⟩ := h
  refine ⟨by simp, ?_⟩
  rcases (Pattern.ofSteps_singleton_takes _ rest).mp hrest with hmore | hnone
  · obtain ⟨gap', rfl, -⟩ := (Pattern.ofSteps_singleton_takes _ rest).mp hmore
    simp [Piece.isGap]
  · obtain rfl : rest = [] := hnone
    simp [Piece.isGap]

theorem Mark.heldIn_of_takes {mark : Mark} {ps : List Piece} (h : (ofSteps mark.steps).Takes ps)
    (htext : textOf ps = [mark.char]) : heldIn ps = mark.capture?.toList := by
  cases mark with
  | field name c =>
      obtain ⟨text, rfl⟩ := field_takes h
      obtain rfl : text = [c] := by rwa [textOf_singleton] at htext
      rfl
  | gap c =>
      refine List.filterMap_eq_nil_iff.mpr fun piece hpiece => ?_
      have hgap := (gap_takes h).2 piece hpiece
      cases piece with
      | letter | held => exact absurd hgap (by simp [Piece.isGap])
      | gap text => rfl

theorem Mark.takes_ne_nil {mark : Mark} {ps : List Piece} (h : (ofSteps mark.steps).Takes ps) :
    ps ≠ [] := by
  cases mark with
  | field name c =>
      obtain ⟨text, rfl⟩ := field_takes h
      exact List.cons_ne_nil _ _
  | gap c => exact (gap_takes h).1

/-- What a ruler takes is as long as the ruler, or longer. -/
theorem length_le_of_ruler {ps : List Piece} (h : (ofSteps (marks.flatMap Mark.steps)).Takes ps) :
    marks.length ≤ (textOf ps).length := by
  refine Nat.le_trans ?_ (length_le_textOf h.sound)
  induction marks generalizing ps with
  | nil => exact Nat.zero_le _
  | cons mark marks ih =>
      obtain ⟨front, back, rfl, hfront, hback⟩ := (Pattern.ofSteps_append_takes _ _ ps).mp h
      have hpos := List.length_pos_iff.mpr (Mark.takes_ne_nil hfront)
      have hmore := ih hback
      rw [List.length_append, List.length_cons]
      omega

/-- On the text that a ruler is made for each place takes its character. -/
theorem heldIn_of_ruler {ps : List Piece} (h : (ofSteps (marks.flatMap Mark.steps)).Takes ps)
    (htext : textOf ps = marks.map Mark.char) : heldIn ps = marks.filterMap Mark.capture? := by
  induction marks generalizing ps with
  | nil =>
      obtain rfl : ps = [] := h
      rfl
  | cons mark marks ih =>
      obtain ⟨front, back, rfl, hfront, hback⟩ := (Pattern.ofSteps_append_takes _ _ ps).mp h
      -- what the other places take is no shorter, so one character is left for this one
      have hpos := List.length_pos_iff.mpr (Mark.takes_ne_nil hfront)
      have hone := length_le_textOf hfront.sound
      have hmore := length_le_of_ruler hback
      have hlength := congrArg List.length htext
      rw [textOf_append, List.length_append, List.length_map, List.length_cons] at hlength
      rw [textOf_append, List.map_cons, ← List.singleton_append] at htext
      obtain ⟨hchar, hchars⟩ :=
        List.append_inj htext (by rw [List.length_singleton]; omega)
      rw [heldIn_append, Mark.heldIn_of_takes hfront hchar, ih hback hchars]
      cases mark <;> rfl

/-- A ruler takes the text that it is made for. -/
theorem ruler_fits (hsuits : ∀ mark ∈ marks, mark.Suits) :
    (ruler marks).pattern.Fits (marks.map Mark.char) := by
  rw [ruler_pattern]
  induction marks with
  | nil => rfl
  | cons mark marks ih =>
      obtain ⟨hmark, hmarks⟩ := List.forall_mem_cons.mp hsuits
      refine (Pattern.ofSteps_append_fits _ _ _).mpr ⟨[mark.char], marks.map Mark.char, rfl, ?_,
        ih hmarks⟩
      cases mark with
      | field name c =>
          refine (Pattern.ofSteps_singleton_fits _ _).mpr ⟨by simp, ?_⟩
          exact List.forall_mem_singleton.mpr hmark
      | gap c =>
          refine ⟨[c], [], rfl, ⟨by simp, List.forall_mem_singleton.mpr hmark⟩, ?_⟩
          exact (Pattern.ofSteps_singleton_fits _ _).mpr (Or.inr rfl)

/-! ### Searching with a ruler -/

variable {utterance : String}

/-- A ruler that is longer than what is searched finds nothing. -/
theorem search?_ruler_eq_none (hshort : (searched utterance).length < marks.length) :
    (ruler marks).search? utterance = none := by
  by_contra hfound
  obtain ⟨taken, hsearch⟩ := Option.isSome_iff_exists.mp (Template.search?_ne_none_iff.mp hfound)
  obtain ⟨before, _, after, hsearched, -, ⟨ps, hps, rfl, -⟩, -⟩ := Pattern.search?_takes hsearch
  rw [ruler_pattern] at hps
  have hlong := length_le_of_ruler hps
  rw [hsearched, List.length_append, List.length_append] at hshort
  omega

/-- **A ruler that is laid over all that is searched holds each character in its place.** -/
theorem search?_ruler (hsuits : ∀ mark ∈ marks, mark.Suits)
    (hsearched : searched utterance = marks.map Mark.char) :
    (ruler marks).search? utterance = some (fieldTexts (marks.filterMap Mark.capture?)) := by
  have hoccurs : Occurs (ruler marks).pattern.Fits (searched utterance) :=
    ⟨[], searched utterance, [], by simp, by simp, hsearched ▸ ruler_fits hsuits, Or.inl rfl⟩
  obtain ⟨taken, hsearch⟩ :=
    Option.isSome_iff_exists.mp (Pattern.search?_complete (ruler_plain marks) hoccurs)
  obtain ⟨before, _, after, hparts, -, ⟨ps, hps, rfl, rfl⟩, -⟩ := Pattern.search?_takes hsearch
  rw [ruler_pattern] at hps
  -- what is taken is as long as all that is searched, so nothing stands around it
  have hlong := length_le_of_ruler hps
  have hlength := congrArg List.length (hsearched.symm.trans hparts)
  simp only [List.length_map, List.length_append] at hlength
  obtain rfl : before = [] := List.length_eq_zero_iff.mp (by omega)
  obtain rfl : after = [] := List.length_eq_zero_iff.mp (by omega)
  rw [List.nil_append, List.append_nil, hsearched] at hparts
  rw [Template.search?, hsearch, heldIn_of_ruler hps hparts.symm]
  rfl

/-! ### Rulers of what is searched -/

namespace Mark

/-- A blank is taken as a gap, and any other character is held. -/
def ofChar (c : Char) : Mark :=
  if Text.isBlank c then .gap c else .field "w" c

theorem ofChar_of_not_isBlank {c : Char} (h : Text.isBlank c = false) :
    ofChar c = .field "w" c := by
  rw [ofChar, if_neg (by simp [h])]

theorem ofChar_char (c : Char) : (ofChar c).char = c := by
  unfold ofChar
  split <;> rfl

theorem map_ofChar_char (cs : List Char) : (cs.map ofChar).map char = cs := by
  simp [Function.comp_def, ofChar_char]

theorem ofChar_suits (c : Char) : (ofChar c).Suits := by
  by_cases h : Text.isBlank c = true
  · rw [ofChar, if_pos h]
    exact h
  · rw [ofChar, if_neg h]
    rintro rfl
    exact h rfl

theorem ofChar_writable (c : Char) : (ofChar c).Writable := by
  unfold ofChar
  split
  · trivial
  · exact ⟨⟨'w', rfl, rfl⟩, List.all_eq_true.mp rfl, by simp⟩

end Mark

/-- **A ruler tells a text from every shorter one.** -/
theorem exists_search?_ne {other : String}
    (h : (searched other).length < (searched utterance).length) :
    ∃ text t, Template.ofText text = .ok t ∧ t.search? utterance ≠ t.search? other := by
  have hfirst : ∃ name c, Mark.field name c ∈ ((searched utterance).map Mark.ofChar).head? := by
    cases hsearched : searched utterance with
    | nil =>
        rw [hsearched] at h
        exact absurd h (by simp)
    | cons c rest =>
        have hc := searched_head? utterance c (by rw [hsearched]; rfl)
        exact ⟨"w", c, by rw [List.map_cons, Mark.ofChar_of_not_isBlank hc]; rfl⟩
  obtain ⟨text, hread⟩ :=
    ofText_ruler hfirst (List.forall_mem_map.mpr fun c _ => Mark.ofChar_writable c)
  refine ⟨text, _, hread, ?_⟩
  rw [search?_ruler (List.forall_mem_map.mpr fun c _ => Mark.ofChar_suits c)
      (Mark.map_ofChar_char _).symm,
    search?_ruler_eq_none (by rwa [List.length_map])]
  exact Option.some_ne_none _

end Phrase

end CommandBar
