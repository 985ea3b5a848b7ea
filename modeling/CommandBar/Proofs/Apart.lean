/-
Fields that are words of their own.

A template in which every field is a word of its own, at every depth, takes a text so
that each field has a gap or the end of the phrase on either side of it.  A word of a
group is no other word than one of the row, so a group with fields in it has to be a
word of its own too.

Rows of pieces are put together in the order of the steps, and what has to be looked at
is only where two of them meet: the words behind the first required one begin with a gap,
an optional word in front of it ends in one, and within a word of several parts there is
no field.
-/
import CommandBar.Proofs.Joining
import CommandBar.Proofs.Language
import Mathlib.Data.List.Chain

namespace CommandBar

namespace Phrase

open Pattern (ofSteps)

mutual

/-- Every field is a word of its own, at every depth; if none is allowed, there is no field. -/
def Template.Apart (allowed : Bool) : Template → Prop
  | .done => True
  | .required word rest => word.Apart allowed ∧ rest.Apart allowed
  | .optional choices rest => choices.Apart allowed ∧ rest.Apart allowed

/-- A word is one field, or one group in which it is so, or has no field. -/
def Word.Apart (allowed : Bool) : Word → Prop
  | .done => True
  | .letter _ rest => rest.Apart false
  | .field _ rest => allowed = true ∧ rest = .done
  | .group choices rest =>
    (choices.Apart allowed ∧ rest = .done) ∨ (choices.Apart false ∧ rest.Apart false)

/-- So it is in every alternative. -/
def Choices.Apart (allowed : Bool) : Choices → Prop
  | .done => True
  | .choice template rest => template.Apart allowed ∧ rest.Apart allowed

end

/-- Two pieces can stand beside each other: one is a gap, or neither is a field. -/
def Beside (first second : Piece) : Prop :=
  first.isGap = true ∨ second.isGap = true ∨ (first.capture? = none ∧ second.capture? = none)

/-- In front of a field stands a gap. -/
theorem Beside.gap_held {piece : Piece} {name : String} {text : List Char}
    (h : Beside piece (.held name text)) : piece.isGap = true := by
  rcases h with hgap | hgap | hnone
  · exact hgap
  · exact absurd hgap (by simp [Piece.isGap])
  · exact absurd hnone.2 (by simp [Piece.capture?])

/-- Behind a field stands a gap. -/
theorem Beside.held_gap {piece : Piece} {name : String} {text : List Char}
    (h : Beside (.held name text) piece) : piece.isGap = true := by
  rcases h with hgap | hgap | hnone
  · exact absurd hgap (by simp [Piece.isGap])
  · exact hgap
  · exact absurd hnone.1 (by simp [Piece.capture?])

/-- Every field among the pieces has a gap or nothing on either side; if none is allowed, there is
no field. -/
structure Bordered (allowed : Bool) (ps : List Piece) : Prop where
  chain : ps.IsChain Beside
  fieldless : allowed = false → ∀ piece ∈ ps, piece.capture? = none

namespace Bordered

variable {allowed : Bool} {ps front back : List Piece}

theorem nil : Bordered allowed [] where
  chain := .nil
  fieldless := by simp

theorem singleton {piece : Piece} (h : allowed = false → piece.capture? = none) :
    Bordered allowed [piece] where
  chain := .singleton piece
  fieldless := fun hallowed => by simpa using h hallowed

/-- Without a field nothing else is asked for. -/
theorem weaken (h : Bordered false ps) : Bordered allowed ps where
  chain := h.chain
  fieldless := fun _ => h.fieldless rfl

theorem append (hfront : Bordered allowed front) (hback : Bordered allowed back)
    (hmeet : ∀ first ∈ front.getLast?, ∀ second ∈ back.head?, Beside first second) :
    Bordered allowed (front ++ back) where
  chain := List.isChain_append.mpr ⟨hfront.chain, hback.chain, hmeet⟩
  fieldless := fun hallowed =>
    List.forall_mem_append.mpr ⟨hfront.fieldless hallowed, hback.fieldless hallowed⟩

/-- Rows without fields can be put together anywhere. -/
theorem append_fieldless (hfront : Bordered false front) (hback : Bordered false back) :
    Bordered false (front ++ back) :=
  hfront.append hback fun first hfirst second hsecond =>
    Or.inr (Or.inr ⟨hfront.fieldless rfl first (List.mem_of_getLast? hfirst),
      hback.fieldless rfl second (List.mem_of_mem_head? hsecond)⟩)

/-- Beside a gap anything can stand. -/
theorem gap_cons (text : List Char) (h : Bordered allowed ps) :
    Bordered allowed (.gap text :: ps) where
  chain := List.isChain_cons.mpr ⟨fun _ _ => Or.inl rfl, h.chain⟩
  fieldless := fun hallowed => List.forall_mem_cons.mpr ⟨rfl, h.fieldless hallowed⟩

theorem append_gap (hfront : Bordered allowed front) (text : List Char)
    (hback : Bordered allowed back) : Bordered allowed (front ++ .gap text :: back) :=
  hfront.append (hback.gap_cons text) fun _ _ second hsecond => by
    obtain rfl : Piece.gap text = second := Option.some.inj hsecond
    exact Or.inr (Or.inl rfl)

/-- In front of a row that begins with a gap anything can stand. -/
theorem append_led (hfront : Bordered allowed front) (hback : Bordered allowed back)
    (hled : ∀ piece ∈ back.head?, piece.isGap = true) : Bordered allowed (front ++ back) :=
  hfront.append hback fun _ _ second hsecond => Or.inr (Or.inl (hled second hsecond))

/-- A joined group takes nothing that none of its alternatives takes. -/
theorem of_join {rows : List (List Pattern)}
    (h : ∀ row ∈ rows, ∀ ps, (ofSteps row).Takes ps → Bordered allowed ps)
    (hps : (ofSteps (Pattern.join rows)).Takes ps) : Bordered allowed ps := by
  cases rows with
  | nil =>
      obtain rfl : ps = [] := hps
      exact nil
  | cons row others =>
      obtain ⟨row', hrow', htakes⟩ := (Pattern.join_takes (List.cons_ne_nil _ _) ps).mp hps
      exact h row' hrow' ps htakes

end Bordered

/-! ### What a template takes -/

mutual

/-- The pieces are bordered, and behind a required word they begin with a gap. -/
theorem Template.Apart.takes : ∀ {t : Template} {allowed : Bool}, t.Apart allowed →
    ∀ {started : Bool} {ps : List Piece}, (ofSteps (t.steps started)).Takes ps →
      Bordered allowed ps ∧ (started = true → ∀ piece ∈ ps.head?, piece.isGap = true)
  | .done, _, _, _, ps, hps => by
      obtain rfl : ps = [] := hps
      exact ⟨.nil, by simp⟩
  | .required word rest, _, h, started, ps, hps => by
      obtain ⟨front, back, rfl, hfront, hback⟩ := (Pattern.ofSteps_append_takes _ _ ps).mp hps
      obtain ⟨hrest, hled⟩ := Template.Apart.takes h.2 hback
      cases started with
      | true =>
          obtain ⟨_, said, rfl, ⟨text, rfl, -⟩, hsaid⟩ := hfront
          have hword := Word.Apart.takes h.1 hsaid
          exact ⟨(hword.gap_cons text).append_led hrest (hled rfl), by simp [Piece.isGap]⟩
      | false => exact ⟨(Word.Apart.takes h.1 hfront).append_led hrest (hled rfl), by simp⟩
  | .optional choices rest, _, h, started, ps, hps => by
      obtain ⟨front, back, rfl, hpresent | habsent, hback⟩ := hps
      · obtain ⟨hrest, hled⟩ := Template.Apart.takes h.2 hback
        cases started with
        | true =>
            obtain ⟨_, said, rfl, ⟨text, rfl, -⟩, hsaid⟩ := hpresent
            have hgroup := Bordered.of_join (Choices.Apart.takes h.1) hsaid
            exact ⟨(hgroup.gap_cons text).append_led hrest (hled rfl), by simp [Piece.isGap]⟩
        | false =>
            obtain ⟨said, _, rfl, hsaid, hlast⟩ :=
              (Pattern.ofSteps_append_takes _ _ front).mp hpresent
            obtain ⟨text, rfl, -⟩ := (Pattern.ofSteps_singleton_takes _ _).mp hlast
            have hgroup := Bordered.of_join (Choices.Apart.takes h.1) hsaid
            rw [List.append_assoc]
            exact ⟨hgroup.append_gap text hrest, by simp⟩
      · obtain rfl : front = [] := habsent
        exact Template.Apart.takes h.2 hback

theorem Word.Apart.takes : ∀ {w : Word} {allowed : Bool}, w.Apart allowed →
    ∀ {ps : List Piece}, (ofSteps w.steps).Takes ps → Bordered allowed ps
  | .done, _, _, _, hps => by
      obtain rfl := hps
      exact .nil
  | .letter c rest, _, h, ps, hps => by
      obtain ⟨_, back, rfl, ⟨d, rfl, -⟩, hback⟩ := hps
      have hrest : rest.Apart false := h
      have hletter : Bordered false [.letter d] := .singleton fun _ => rfl
      exact (hletter.append_fieldless (Word.Apart.takes hrest hback)).weaken
  | .field name rest, _, h, ps, hps => by
      obtain ⟨_, back, rfl, ⟨text, rfl, -⟩, hback⟩ := hps
      obtain ⟨rfl, rfl⟩ := h
      obtain rfl : back = [] := hback
      exact .singleton (by simp)
  | .group choices rest, _, h, ps, hps => by
      obtain ⟨front, back, rfl, hfront, hback⟩ := (Pattern.ofSteps_append_takes _ _ ps).mp hps
      rcases h with ⟨hchoices, rfl⟩ | ⟨hchoices, hrest⟩
      · obtain rfl : back = [] := hback
        rw [List.append_nil]
        exact Bordered.of_join (Choices.Apart.takes hchoices) hfront
      · have hgroup := Bordered.of_join (Choices.Apart.takes hchoices) hfront
        exact (hgroup.append_fieldless (Word.Apart.takes hrest hback)).weaken

theorem Choices.Apart.takes : ∀ {c : Choices} {allowed : Bool}, c.Apart allowed →
    ∀ row ∈ c.rows, ∀ ps, (ofSteps row).Takes ps → Bordered allowed ps
  | .done, _, _, row, hrow, _, _ => absurd hrow (by simp [Choices.rows])
  | .choice template rest, _, h, row, hrow, ps, hps => by
      rcases List.mem_cons.mp hrow with rfl | hrow
      · exact (Template.Apart.takes h.1 hps).1
      · exact Choices.Apart.takes h.2 row hrow ps hps

end

end Phrase

end CommandBar
