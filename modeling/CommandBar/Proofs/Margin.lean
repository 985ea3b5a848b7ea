/-
Fields that are left blank.

What a field holds is trimmed when it is returned, so the value of a field that took
nothing but blanks is empty.  A field takes blanks only where the steps around it leave
it some: with a gap on a side of it, the gap takes a blank of its own there.  How many
sides of a field are always open, with a gap or the end of the phrase there, is the
margin of the field.  A field with a margin of `n` can be left blank only in a text with
a blank that has `n` sides free, with a blank or the end of the text there.

This cannot be improved.  A ruler with a field for such a blank and a gap for every other
one has that margin and leaves that field blank.

A field that is a word of its own, in a template where every field is, has both sides
open.  So the fields of such a template are left blank only by three blanks in a row, or
by two at the end.
-/
import CommandBar.Proofs.Apart
import CommandBar.Proofs.Fields
import CommandBar.Proofs.Ruler
import Mathlib.Data.Bool.Basic

namespace CommandBar

namespace Phrase

open Pattern (ofSteps)

/-- The number of sides on which nothing stands, or something of that kind. -/
def freeSides {α : Type} (free : α → Bool) (front back : List α) : Nat :=
  (front.getLast?.all free).toNat + (back.head?.all free).toNat

/-- Wherever the field is taken, a gap or the end of the phrase is on so many sides of it. -/
def Template.Margin (t : Template) (name : String) (n : Nat) : Prop :=
  ∀ front text back, t.pattern.Takes (front ++ .held name text :: back) →
    n ≤ freeSides Piece.isGap front back

/-- A blank of the text that is no line break has so many free sides. -/
def Slack (n : Nat) (cs : List Char) : Prop :=
  ∃ before c after, cs = before ++ c :: after ∧ Text.isBlank c = true ∧ c ≠ '\n' ∧
    n ≤ freeSides Text.isBlank before after

theorem freeSides_mono {α β : Type} {free : α → Bool} {free' : β → Bool} {front back : List α}
    {front' back' : List β}
    (hfront : front.getLast?.all free = true → front'.getLast?.all free' = true)
    (hback : back.head?.all free = true → back'.head?.all free' = true) :
    freeSides free front back ≤ freeSides free' front' back' :=
  Nat.add_le_add (Bool.toNat_le_toNat (Bool.le_iff_imp.mpr hfront))
    (Bool.toNat_le_toNat (Bool.le_iff_imp.mpr hback))

/-! ### What is in front of a field and behind it -/

section Sides

variable {ps : List Piece} {before after : List Char}

/-- Where a gap or nothing stands at the end, so does a blank or nothing. -/
theorem getLast?_textOf (hsound : ∀ piece ∈ ps, piece.Sound)
    (hbefore : before.getLast?.all Text.isBlank = true)
    (hopen : ps.getLast?.all Piece.isGap = true) :
    (before ++ textOf ps).getLast?.all Text.isBlank = true := by
  rcases List.eq_nil_or_concat ps with rfl | ⟨front, piece, rfl⟩
  · simpa using hbefore
  · cases piece with
    | letter | held => exact absurd hopen (by simp [Piece.isGap])
    | gap text =>
        obtain ⟨hne, hblank⟩ : Piece.Sound (.gap text) := hsound _ (by simp)
        rw [List.concat_eq_append, textOf_append, textOf_singleton, ← List.append_assoc,
          Piece.text, List.getLast?_append_of_ne_nil _ hne, Option.all_eq_true]
        exact fun c hc => hblank c (List.mem_of_getLast? hc)

/-- Where a gap or nothing stands at the front, so does a blank or nothing. -/
theorem head?_textOf (hsound : ∀ piece ∈ ps, piece.Sound)
    (hafter : after.head?.all Text.isBlank = true)
    (hopen : ps.head?.all Piece.isGap = true) :
    (textOf ps ++ after).head?.all Text.isBlank = true := by
  cases ps with
  | nil => simpa using hafter
  | cons piece rest =>
      cases piece with
      | letter | held => exact absurd hopen (by simp [Piece.isGap])
      | gap text =>
          obtain ⟨hne, hblank⟩ : Piece.Sound (.gap text) := hsound _ (by simp)
          obtain ⟨c, text, rfl⟩ := List.exists_cons_of_ne_nil hne
          simpa [Piece.text] using hblank c (by simp)

end Sides

/-! ### A field that is left blank -/

/-- A value that is blank is what a field of that name holds that took nothing but blanks. -/
theorem blank_of_mem_fieldTexts {taken : Captures} {name value : String}
    (h : (name, value) ∈ fieldTexts taken) (hblank : Text.trim value = "") :
    ∃ text, (name, text) ∈ taken ∧ ∀ c ∈ text, Text.isBlank c = true := by
  rcases Fields.mem_override h with hnone | hmem
  · exact absurd hnone (by simp)
  · obtain ⟨⟨name', text⟩, htaken, hentry⟩ := List.mem_map.mp hmem
    obtain ⟨rfl, rfl⟩ := Prod.mk.inj hentry
    refine ⟨text, htaken, Text.trimChars_eq_nil_iff.mp ?_⟩
    rw [Text.trim, String.toList_ofList, (Text.trimChars_trimmed text).trimChars_eq] at hblank
    exact String.ofList_eq_empty_iff.mp hblank

/-- A field is left blank only where a blank has its margin free. -/
theorem slack_of_blank {t : Template} {name utterance value : String} {n : Nat}
    {fields : Fields String} (hmargin : t.Margin name n)
    (hsearch : t.search? utterance = some fields) (hvalue : (name, value) ∈ fields)
    (hblank : Text.trim value = "") : Slack n (searched utterance) := by
  obtain ⟨taken, hfound, rfl⟩ := Option.map_eq_some_iff.mp hsearch
  obtain ⟨before, _, after, hparts, hbefore, ⟨ps, hps, rfl, rfl⟩, hafter⟩ :=
    Pattern.search?_takes hfound
  obtain ⟨text, hmem, hall⟩ := blank_of_mem_fieldTexts hvalue hblank
  obtain ⟨front, back, rfl⟩ := List.append_of_mem (mem_heldIn hmem)
  have hsound := hps.sound
  obtain ⟨hne, hline⟩ : Piece.Sound (.held name text) := hsound _ (by simp)
  obtain ⟨c, more, rfl⟩ := List.exists_cons_of_ne_nil hne
  refine ⟨before ++ textOf front, c, more ++ (textOf back ++ after), ?_, hall c (by simp),
    hline c (by simp), (hmargin front (c :: more) back hps).trans (freeSides_mono ?_ ?_)⟩
  · rw [hparts]
    simp [Piece.text]
  · exact getLast?_textOf (fun piece hpiece => hsound piece (by simp [hpiece]))
      ((Option.all_eq_true _ _).mpr hbefore)
  · intro hopen
    have hend : after.head?.all Text.isBlank = true := by
      rcases hafter with rfl | rfl <;> rfl
    cases more with
    | nil => exact head?_textOf (fun piece hpiece => hsound piece (by simp [hpiece])) hend hopen
    | cons d more => exact hall d (by simp)

/-! ### A ruler that leaves a field blank -/

section Rulers

variable {cs : List Char} {ps : List Piece}

/-- The places for characters and blanks hold no field of another name. -/
theorem name_of_takes {name : String} {text : List Char}
    (h : (ofSteps ((cs.map Mark.ofChar).flatMap Mark.steps)).Takes ps)
    (hmem : .held name text ∈ ps) : name = "w" := by
  induction cs generalizing ps with
  | nil =>
      obtain rfl : ps = [] := h
      exact absurd hmem (by simp)
  | cons c cs ih =>
      obtain ⟨front, back, rfl, hfront, hback⟩ := (Pattern.ofSteps_append_takes _ _ ps).mp h
      rcases List.mem_append.mp hmem with hmem | hmem
      · by_cases hc : Text.isBlank c = true
        · rw [Mark.ofChar, if_pos hc] at hfront
          exact absurd ((Mark.gap_takes hfront).2 _ hmem) (by simp [Piece.isGap])
        · rw [Mark.ofChar, if_neg hc] at hfront
          obtain ⟨text', rfl⟩ := Mark.field_takes hfront
          exact (Piece.held.inj (List.mem_singleton.mp hmem)).1
      · exact ih hback hmem

theorem gap_takes_ofChar {c : Char} (hc : Text.isBlank c = true)
    (h : (ofSteps (Mark.ofChar c).steps).Takes ps) :
    ps ≠ [] ∧ ∀ piece ∈ ps, piece.isGap = true := by
  rw [Mark.ofChar, if_pos hc] at h
  exact Mark.gap_takes h

/-- Behind a blank what follows is behind a gap. -/
theorem getLast?_takes (h : (ofSteps ((cs.map Mark.ofChar).flatMap Mark.steps)).Takes ps)
    (hblank : cs.getLast?.all Text.isBlank = true) : ps.getLast?.all Piece.isGap = true := by
  rcases List.eq_nil_or_concat cs with rfl | ⟨front, c, rfl⟩
  · obtain rfl : ps = [] := h
    rfl
  · rw [List.concat_eq_append, List.map_append, List.flatMap_append] at h
    obtain ⟨pieces, gaps, rfl, -, hgaps⟩ := (Pattern.ofSteps_append_takes _ _ ps).mp h
    rw [List.map_singleton, List.flatMap_singleton] at hgaps
    obtain ⟨hne, hgap⟩ := gap_takes_ofChar (by simpa using hblank) hgaps
    rw [List.getLast?_append_of_ne_nil _ hne, Option.all_eq_true]
    exact fun piece hpiece => hgap piece (List.mem_of_getLast? hpiece)

/-- In front of a blank what is there is in front of a gap. -/
theorem head?_takes (h : (ofSteps ((cs.map Mark.ofChar).flatMap Mark.steps)).Takes ps)
    (hblank : cs.head?.all Text.isBlank = true) : ps.head?.all Piece.isGap = true := by
  cases cs with
  | nil =>
      obtain rfl : ps = [] := h
      rfl
  | cons c cs =>
      obtain ⟨gaps, pieces, rfl, hgaps, -⟩ := (Pattern.ofSteps_append_takes _ _ ps).mp h
      obtain ⟨hne, hgap⟩ := gap_takes_ofChar (by simpa using hblank) hgaps
      rw [List.head?_append_of_ne_nil _ hne, Option.all_eq_true]
      exact fun piece hpiece => hgap piece (List.mem_of_mem_head? hpiece)

end Rulers

/-- The ruler with a field of its own for one character. -/
def marksAround (before : List Char) (c : Char) (after : List Char) : List Mark :=
  before.map Mark.ofChar ++ .field "q" c :: after.map Mark.ofChar

variable {before after : List Char} {c : Char}

theorem marksAround_margin :
    (ruler (marksAround before c after)).Margin "q" (freeSides Text.isBlank before after) := by
  intro front text back h
  rw [ruler_pattern, marksAround, List.flatMap_append, List.flatMap_cons] at h
  obtain ⟨first, rest, hsplit, hfirst, hrest⟩ := (Pattern.ofSteps_append_takes _ _ _).mp h
  obtain ⟨own, last, rfl, hown, hlast⟩ := (Pattern.ofSteps_append_takes _ _ _).mp hrest
  obtain ⟨text', rfl⟩ := Mark.field_takes hown
  have hforeign : ∀ {cs : List Char} {ps : List Piece},
      (ofSteps ((cs.map Mark.ofChar).flatMap Mark.steps)).Takes ps → .held "q" text ∉ ps :=
    fun hps hmem => absurd (name_of_takes hps hmem) (by decide)
  obtain ⟨rfl, -, rfl⟩ :=
    (List.append_cons_inj_of_notMem (hforeign hfirst) (hforeign hlast)).mp hsplit.symm
  exact freeSides_mono (getLast?_takes hfirst) (head?_takes hlast)

/-- The ruler is the template of a text, if it does not begin with a blank. -/
theorem marksAround_read (hfront : ∀ d ∈ (before ++ c :: after).head?, Text.isBlank d = false)
    (hblank : Text.isBlank c = true) :
    ∃ text, Template.ofText text = .ok (ruler (marksAround before c after)) := by
  refine ofText_ruler ?_ ?_
  · cases before with
    | nil => exact absurd (hfront c rfl) (by simp [hblank])
    | cons d before =>
        refine ⟨"w", d, ?_⟩
        rw [marksAround, List.map_cons, Mark.ofChar_of_not_isBlank (hfront d rfl)]
        rfl
  · simp only [marksAround, List.forall_mem_append, List.forall_mem_cons, List.forall_mem_map]
    exact ⟨fun d _ => Mark.ofChar_writable d,
      ⟨⟨'q', rfl, rfl⟩, List.all_eq_true.mp rfl, by simp⟩, fun d _ => Mark.ofChar_writable d⟩

theorem capture?_ofChar {d : Char} {entry : String × List Char}
    (h : (Mark.ofChar d).capture? = some entry) : entry.1 = "w" := by
  by_cases hd : Text.isBlank d = true
  · rw [Mark.ofChar, if_pos hd] at h
    exact absurd h (by simp [Mark.capture?])
  · rw [Mark.ofChar, if_neg hd] at h
    rw [← Option.some.inj h]

/-- The ruler is found where it was made, with nothing in its field. -/
theorem marksAround_search? {utterance : String}
    (hparts : searched utterance = before ++ c :: after) (hblank : Text.isBlank c = true)
    (hline : c ≠ '\n') :
    ∃ fields, (ruler (marksAround before c after)).search? utterance = some fields ∧
      ("q", "") ∈ fields := by
  have hsuits : ∀ mark ∈ marksAround before c after, mark.Suits := by
    simp only [marksAround, List.forall_mem_append, List.forall_mem_cons, List.forall_mem_map]
    exact ⟨fun d _ => Mark.ofChar_suits d, hline, fun d _ => Mark.ofChar_suits d⟩
  have hchars : searched utterance = (marksAround before c after).map Mark.char := by
    rw [hparts, marksAround, List.map_append, List.map_cons, Mark.map_ofChar_char,
      Mark.map_ofChar_char]
    rfl
  refine ⟨_, search?_ruler hsuits hchars, Fields.mem_of_get?_eq_some ?_⟩
  rw [fieldTexts, marksAround, List.filterMap_append, List.filterMap_cons, List.map_append]
  have hvalue : String.ofList (Text.trimChars [c]) = "" :=
    String.ofList_eq_empty_iff.mpr (Text.trimChars_eq_nil_iff.mpr (by simpa using hblank))
  rw [← hvalue]
  refine Fields.get?_ofPairs_append_cons _ _ fun hname => ?_
  -- a later field would have the other name
  simp only [Fields.names, List.map_map, List.mem_map, List.mem_filterMap] at hname
  obtain ⟨entry, ⟨_, ⟨d, -, rfl⟩, hentry⟩, hname⟩ := hname
  exact absurd ((capture?_ofChar hentry).symm.trans hname) (by decide)

/-! ### Where no field is left blank -/

/-- A field that is a word of its own, where every field is, has both sides open. -/
theorem Template.Apart.margin {t : Template} (h : t.Apart true) (name : String) :
    t.Margin name 2 := by
  intro front text back hps
  have hchain := (Template.Apart.takes h hps).1.chain
  obtain ⟨-, hbehind, hmeet⟩ := List.isChain_append.mp hchain
  have hleft : front.getLast?.all Piece.isGap = true :=
    (Option.all_eq_true _ _).mpr fun piece hpiece => (hmeet piece hpiece _ rfl).gap_held
  have hright : back.head?.all Piece.isGap = true :=
    (Option.all_eq_true _ _).mpr fun piece hpiece =>
      ((List.isChain_cons.mp hbehind).1 piece hpiece).held_gap
  simp [freeSides, hleft, hright]

/-- A text in which no blank stands beside another one or at an end has no side of one free. -/
theorem not_slack {cs : List Char} {n : Nat} (hn : 0 < n)
    (hhead : ∀ c ∈ cs.head?, Text.isBlank c = false)
    (hlast : ∀ c ∈ cs.getLast?, Text.isBlank c = false)
    (hsingle : cs.IsChain fun c d => Text.isBlank c = false ∨ Text.isBlank d = false) :
    ¬ Slack n cs := by
  rintro ⟨before, c, after, rfl, hblank, -, hsides⟩
  obtain ⟨-, hbehind, hmeet⟩ := List.isChain_append.mp hsingle
  have hleft : before.getLast?.all Text.isBlank = false := by
    cases hbefore : before.getLast? with
    | none =>
        obtain rfl := List.getLast?_eq_none_iff.mp hbefore
        exact absurd (hhead c rfl) (by simp [hblank])
    | some d => simpa [hblank] using hmeet d hbefore c rfl
  have hright : after.head?.all Text.isBlank = false := by
    cases after with
    | nil => exact absurd (hlast c (by simp)) (by simp [hblank])
    | cons d after => simpa [hblank] using (List.isChain_cons.mp hbehind).1 d rfl
  simp [freeSides, hleft, hright] at hsides
  omega

/-- **A field is returned blank exactly where its margin is free.**  For an utterance and a number
of sides, in every template the fields with such a margin have values that are not blank wherever
the search finds something, exactly if no blank in what is searched has as many free sides.  A
field that is a word of its own, in a template where every field is, has a margin of two. -/
theorem Template.search?_holds_text (utterance : String) :
    (∀ n, (∀ text t, Template.ofText text = .ok t → ∀ name, t.Margin name n →
        ∀ fields, t.search? utterance = some fields → ∀ value, (name, value) ∈ fields →
          Text.trim value ≠ "") ↔
      ¬ Slack n (searched utterance)) ∧
      ∀ t : Template, t.Apart true → ∀ name, t.Margin name 2 := by
  refine ⟨fun n => ⟨?_, ?_⟩, fun t hapart => hapart.margin⟩
  · rintro hfull ⟨before, c, after, hparts, hblank, hline, hsides⟩
    have hmargin : (ruler (marksAround before c after)).Margin "q" n :=
      fun front text back h => hsides.trans (marksAround_margin front text back h)
    have hfront : ∀ d ∈ (before ++ c :: after).head?, Text.isBlank d = false :=
      hparts ▸ searched_head? utterance
    obtain ⟨text, hread⟩ := marksAround_read hfront hblank
    obtain ⟨fields, hsearch, hmem⟩ := marksAround_search? hparts hblank hline
    exact hfull text _ hread "q" hmargin fields hsearch "" hmem rfl
  · intro hslack text t _ name hmargin fields hsearch value hvalue hblank
    exact hslack (slack_of_blank hmargin hsearch hvalue hblank)

/-- An example: with single blanks and no mark set apart a query is found with its text. -/
theorem Template.search?_holds_text_query :
    ∃ t, Template.ofText "search [youtube|] for $query" = .ok t ∧ t.Margin "query" 2 ∧
      ¬ Slack 2 (searched "search for cats!") ∧
      ∃ value, t.search? "search for cats!" = some [("query", value)] ∧
        Text.trim value ≠ "" := by
  have hapart : searchTemplate.Apart true := by
    simp [searchTemplate, Word.ofLetters, Template.Apart, Word.Apart, Choices.Apart]
  have hfound : searchTemplate.search? "search for cats!" = some [("query", "cats")] := by
    decide +kernel
  have hlast : (searched "search for cats!").getLast? = some 's' := by decide +kernel
  have hslack : ¬ Slack 2 (searched "search for cats!") := by
    refine not_slack (by decide) (searched_head? _) ?_ (by decide +kernel)
    rw [hlast]
    exact fun c hc => Option.some.inj hc ▸ rfl
  obtain ⟨hiff, hmargin⟩ := Template.search?_holds_text "search for cats!"
  have hquery := hmargin searchTemplate hapart "query"
  exact ⟨searchTemplate, searchTemplate_read, hquery, hslack, "cats", hfound,
    (hiff 2).mpr hslack _ _ searchTemplate_read "query" hquery _ hfound "cats" (by simp)⟩

/-- A mark behind two blanks is enough for a query that says nothing, which without it is none. -/
theorem Template.search?_holds_nothing :
    ∃ t, Template.ofText "search [youtube|] for $query" = .ok t ∧
      t.search? "search for" = none ∧ t.search? "search for  ." = some [("query", "")] := by
  refine ⟨searchTemplate, searchTemplate_read, ?_, ?_⟩
  · decide +kernel
  · decide +kernel

end Phrase

end CommandBar
