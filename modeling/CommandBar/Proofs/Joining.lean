/-
Joining alternatives changes nothing.

A row of steps that stands for a group takes a text in the pieces in which one of the
alternatives takes it.  The front that all alternatives share is taken off letter by
letter: two steps that are the same letters take the same pieces, so each alternative
takes what the letter and its rest take.  What is left is one set of letters if each
rest is one letter, and the rests themselves otherwise.

Plainness is another matter: a set is made here that no step had before.  So it is
asked of the pattern that comes out, and not of the alternatives.
-/
import CommandBar.Proofs.Matching

namespace CommandBar

namespace Phrase

namespace Pattern

variable {row : List Pattern} {rows others : List (List Pattern)}

theorem mapM_cons_eq_some {α β : Type} {f : α → Option β} {a : α} {as : List α} {bs : List β}
    (h : (a :: as).mapM f = some bs) :
    ∃ b rest, f a = some b ∧ as.mapM f = some rest ∧ b :: rest = bs := by
  simp only [List.mapM_cons, Option.bind_eq_bind, Option.bind_eq_some_iff, Option.pure_def,
    Option.some.injEq] at h
  obtain ⟨b, hb, rest, hrest, hbs⟩ := h
  exact ⟨b, rest, hb, hrest, hbs⟩

/-! ### Rows of steps -/

/-- Two rows after each other take what the one takes and then what the other does. -/
theorem ofSteps_append_takes (first second : List Pattern) (ps : List Piece) :
    (ofSteps (first ++ second)).Takes ps ↔
      ∃ front back, ps = front ++ back ∧ (ofSteps first).Takes front ∧
        (ofSteps second).Takes back := by
  induction first generalizing ps with
  | nil =>
      constructor
      · intro h
        exact ⟨[], ps, rfl, rfl, h⟩
      · rintro ⟨front, back, rfl, hfront, hback⟩
        obtain rfl : front = [] := hfront
        exact hback
  | cons step first ih =>
      constructor
      · rintro ⟨head, tail, rfl, hhead, htail⟩
        obtain ⟨front, back, rfl, hfront, hback⟩ := (ih tail).mp htail
        exact ⟨head ++ front, back, by rw [List.append_assoc], ⟨head, front, rfl, hhead, hfront⟩,
          hback⟩
      · rintro ⟨front, back, rfl, ⟨head, tail, rfl, hhead, htail⟩, hback⟩
        exact ⟨head, tail ++ back, by rw [List.append_assoc], hhead,
          (ih (tail ++ back)).mpr ⟨tail, back, rfl, htail, hback⟩⟩

theorem ofSteps_singleton_takes (step : Pattern) (ps : List Piece) :
    (ofSteps [step]).Takes ps ↔ step.Takes ps := by
  constructor
  · rintro ⟨front, back, rfl, hfront, hback⟩
    obtain rfl : back = [] := hback
    rwa [List.append_nil]
  · intro h
    exact ⟨ps, [], by rw [List.append_nil], h, rfl⟩

/-- Two rows after each other fit a text that falls into parts that they fit. -/
theorem ofSteps_append_fits (first second : List Pattern) (text : List Char) :
    (ofSteps (first ++ second)).Fits text ↔
      ∃ front back, text = front ++ back ∧ (ofSteps first).Fits front ∧
        (ofSteps second).Fits back := by
  simp only [fits_iff_takes, ofSteps_append_takes]
  constructor
  · rintro ⟨_, ⟨front, back, rfl, hfront, hback⟩, rfl⟩
    exact ⟨textOf front, textOf back, textOf_append front back, ⟨front, hfront, rfl⟩,
      ⟨back, hback, rfl⟩⟩
  · rintro ⟨_, _, rfl, ⟨front, hfront, rfl⟩, ⟨back, hback, rfl⟩⟩
    exact ⟨front ++ back, ⟨front, back, rfl, hfront, hback⟩, textOf_append front back⟩

theorem ofSteps_singleton_fits (step : Pattern) (text : List Char) :
    (ofSteps [step]).Fits text ↔ step.Fits text := by
  simp only [fits_iff_takes, ofSteps_singleton_takes]

/-- The first row that takes them is a row that does. -/
theorem firstOf_takes (hne : rows ≠ []) (ps : List Piece) :
    (firstOf rows).Takes ps ↔ ∃ row ∈ rows, (ofSteps row).Takes ps := by
  induction rows with
  | nil => exact absurd rfl hne
  | cons row rest ih =>
      cases rest with
      | nil => simp [firstOf]
      | cons other rest =>
          show (ofSteps row).Takes ps ∨ (firstOf (other :: rest)).Takes ps ↔ _
          rw [ih (by simp)]
          simp

/-! ### Steps for one letter -/

/-- A step for one letter takes one character, of the letters that it allows. -/
theorem takes_of_letters? {step : Pattern} {letters : List Char}
    (h : step.letters? = some letters) (ps : List Piece) :
    step.Takes ps ↔ ∃ d, ps = [.letter d] ∧ ∃ c ∈ letters, Text.sameLetter c d = true := by
  cases step with
  | letter c =>
      obtain rfl : [c] = letters := Option.some.inj h
      simp [Takes]
  | oneOf cs =>
      obtain rfl : cs = letters := Option.some.inj h
      rfl
  | empty | blanks | field | seq | either => simp [letters?] at h

/-- What is behind a letter that a row begins with. -/
theorem fits_of_behind? {letters : List Char} {rest : List Pattern}
    (h : behind? letters row = some rest) :
    ∃ step, row = step :: rest ∧ step.letters? = some letters := by
  cases row with
  | nil => simp [behind?] at h
  | cons step tail =>
      rw [behind?] at h
      by_cases hletters : step.letters? = some letters
      · rw [if_pos hletters] at h
        exact ⟨step, by rw [Option.some.inj h], hletters⟩
      · rw [if_neg hletters] at h
        exact absurd h (by simp)

/-- Two rows that begin with the same letters and go on in the same way take the same pieces. -/
theorem ofSteps_cons_congr {step step' : Pattern} {letters : List Char}
    (hstep : step.letters? = some letters) (hstep' : step'.letters? = some letters)
    (rest : List Pattern) (ps : List Piece) :
    (ofSteps (step :: rest)).Takes ps ↔ (ofSteps (step' :: rest)).Takes ps := by
  show (∃ front back, _ ∧ step.Takes front ∧ _) ↔ ∃ front back, _ ∧ step'.Takes front ∧ _
  simp only [takes_of_letters? hstep, takes_of_letters? hstep']

/-! ### The shared front -/

/-- Rows that all begin with the letters of a step take what the step and their rests take. -/
theorem behind_takes {step : Pattern} {letters : List Char} {rests : List (List Pattern)}
    (hstep : step.letters? = some letters) (h : others.mapM (behind? letters) = some rests)
    (ps : List Piece) :
    (∃ row ∈ others, (ofSteps row).Takes ps) ↔
      ∃ rest ∈ rests, (ofSteps (step :: rest)).Takes ps := by
  induction others generalizing rests with
  | nil =>
      obtain rfl : [] = rests := by simpa using h
      simp
  | cons row others ih =>
      obtain ⟨rest, more, hrest, hmore, rfl⟩ := mapM_cons_eq_some h
      obtain ⟨step', rfl, hstep'⟩ := fits_of_behind? hrest
      have hrow := ofSteps_cons_congr hstep' hstep rest ps
      have hothers := ih hmore
      simp only [List.mem_cons, exists_eq_or_imp, hrow, hothers]

/-- What several rows begin with can be taken before one of them is chosen. -/
theorem append_exists_takes (first : List Pattern) (rest : List Pattern → List Pattern)
    (rows : List (List Pattern)) (ps : List Piece) :
    (∃ row ∈ rows, (ofSteps (first ++ rest row)).Takes ps) ↔
      ∃ front back, ps = front ++ back ∧ (ofSteps first).Takes front ∧
        ∃ row ∈ rows, (ofSteps (rest row)).Takes back := by
  simp only [ofSteps_append_takes first]
  constructor
  · rintro ⟨row, hrow, front, back, rfl, hfront, hback⟩
    exact ⟨front, back, rfl, hfront, row, hrow, hback⟩
  · rintro ⟨front, back, rfl, hfront, row, hrow, hback⟩
    exact ⟨row, hrow, front, back, rfl, hfront, hback⟩

theorem shared_ne_nil (row : List Pattern) (others : List (List Pattern)) :
    (shared row others).2 ≠ [] := by
  induction row generalizing others with
  | nil => simp [shared]
  | cons step row ih =>
      rw [shared]
      split
      · simp
      · next rests _ => exact ih rests

/-- The shared front and one of the rests take what one of the rows takes. -/
theorem shared_takes (row : List Pattern) (others : List (List Pattern)) (ps : List Piece) :
    (∃ rest ∈ (shared row others).2, (ofSteps ((shared row others).1 ++ rest)).Takes ps) ↔
      ∃ row' ∈ row :: others, (ofSteps row').Takes ps := by
  induction row generalizing others ps with
  | nil => rfl
  | cons step row ih =>
      rw [shared]
      split
      · rfl
      · next rests hrests =>
          obtain ⟨letters, hstep, hmap⟩ := Option.bind_eq_some_iff.mp hrests
          have hothers : (∃ row' ∈ others, (ofSteps row').Takes ps) ↔
              ∃ rest ∈ rests, (ofSteps ([step] ++ rest)).Takes ps :=
            behind_takes hstep hmap ps
          have hall : (∃ row' ∈ (step :: row) :: others, (ofSteps row').Takes ps) ↔
              ∃ rest ∈ row :: rests, (ofSteps ([step] ++ rest)).Takes ps := by
            simp only [List.mem_cons, exists_eq_or_imp, hothers]
            rfl
          rw [hall, append_exists_takes [step] (fun row => row)]
          simp only [← ih rests]
          exact append_exists_takes [step] ((shared row rests).1 ++ ·) (shared row rests).2 ps

/-! ### The choice that is left -/

theorem exists_of_single? {letters : List Char} (h : single? row = some letters) :
    ∃ step, row = [step] := by
  cases row with
  | nil => simp [single?] at h
  | cons step tail =>
      cases tail with
      | nil => exact ⟨step, rfl⟩
      | cons other tail => simp [single?] at h

/-- Rows that are one letter each take one character, of the letters of one of them. -/
theorem singles_takes {sets : List (List Char)} (h : rows.mapM single? = some sets)
    (ps : List Piece) :
    (∃ row ∈ rows, (ofSteps row).Takes ps) ↔
      ∃ d, ps = [.letter d] ∧ ∃ c ∈ sets.flatten, Text.sameLetter c d = true := by
  induction rows generalizing sets with
  | nil =>
      obtain rfl : [] = sets := by simpa using h
      simp
  | cons row rows ih =>
      obtain ⟨letters, more, hletters, hmore, rfl⟩ := mapM_cons_eq_some h
      obtain ⟨step, rfl⟩ := exists_of_single? hletters
      have hrow := (ofSteps_singleton_takes step ps).trans (takes_of_letters? hletters ps)
      simp only [List.mem_cons, exists_eq_or_imp, hrow, ih hmore]
      simp only [List.flatten_cons, List.mem_append, or_and_right, exists_or, and_or_left]

theorem choice_takes (hne : rows ≠ []) (ps : List Piece) :
    (choice rows).Takes ps ↔ ∃ row ∈ rows, (ofSteps row).Takes ps := by
  unfold choice
  split
  · next sets hsets =>
      rw [singles_takes hsets]
      simp only [Takes, List.mem_eraseDups]
  · exact firstOf_takes hne ps

/-- **A joined group takes what one of its alternatives takes.** -/
theorem join_takes (hne : rows ≠ []) (ps : List Piece) :
    (ofSteps (join rows)).Takes ps ↔ ∃ row ∈ rows, (ofSteps row).Takes ps := by
  cases rows with
  | nil => exact absurd rfl hne
  | cons row others =>
      cases others with
      | nil => simp [join]
      | cons other others =>
          have hrests := shared_ne_nil row (other :: others)
          show (ofSteps ((shared row (other :: others)).1 ++
            [choice (shared row (other :: others)).2])).Takes ps ↔ _
          rw [ofSteps_append_takes, ← shared_takes row (other :: others),
            append_exists_takes _ (fun row => row)]
          simp only [ofSteps_singleton_takes, choice_takes hrests]

/-- A joined group fits what one of its alternatives fits. -/
theorem join_fits (hne : rows ≠ []) (text : List Char) :
    (ofSteps (join rows)).Fits text ↔ ∃ row ∈ rows, (ofSteps row).Fits text := by
  simp only [fits_iff_takes, join_takes hne]
  constructor
  · rintro ⟨ps, ⟨row, hrow, hps⟩, htext⟩
    exact ⟨row, hrow, ps, hps, htext⟩
  · rintro ⟨row, hrow, ps, hps, htext⟩
    exact ⟨ps, ⟨row, hrow, hps⟩, htext⟩

end Pattern

end Phrase

end CommandBar
