/-
The pieces that a match takes a text in.

A pattern takes a text apart: each letter step takes a letter, each run of blanks a gap,
and each field what it then holds.  `Takes` says which rows of pieces a pattern allows,
without an order of trying.  A result of running a pattern comes from behind such a row,
and what the continuation is handed is what the fields of the row hold; so every
statement about what a search returns is one about rows of pieces.
-/
import CommandBar.Phrase.Search
import CommandBar.Proofs.Letter

namespace CommandBar

namespace Phrase

/-- A piece of a text, as one step of a pattern takes it. -/
inductive Piece
  | letter (c : Char)
  | gap (text : List Char)
  | held (name : String) (text : List Char)

namespace Piece

/-- The text of the piece. -/
def text : Piece → List Char
  | .letter c => [c]
  | .gap text => text
  | .held _ text => text

/-- Whether the piece is a gap. -/
def isGap : Piece → Bool
  | .gap _ => true
  | _ => false

/-- What the piece holds for a field. -/
def capture? : Piece → Option (String × List Char)
  | .held name text => some (name, text)
  | _ => none

/-- The piece is one that a step can take: it is not empty, a gap is blank and a field stays on its
line. -/
def Sound : Piece → Prop
  | .letter _ => True
  | .gap text => text ≠ [] ∧ ∀ c ∈ text, Text.isBlank c = true
  | .held _ text => text ≠ [] ∧ ∀ c ∈ text, c ≠ '\n'

end Piece

/-- The text that pieces make. -/
def textOf (pieces : List Piece) : List Char :=
  pieces.flatMap Piece.text

/-- What the fields among the pieces hold, in order. -/
def heldIn (pieces : List Piece) : Captures :=
  pieces.filterMap Piece.capture?

@[simp] theorem textOf_nil : textOf [] = [] := rfl

@[simp] theorem textOf_cons (piece : Piece) (rest : List Piece) :
    textOf (piece :: rest) = piece.text ++ textOf rest :=
  List.flatMap_cons

theorem textOf_singleton (piece : Piece) : textOf [piece] = piece.text :=
  List.append_nil _

@[simp] theorem textOf_append (front back : List Piece) :
    textOf (front ++ back) = textOf front ++ textOf back :=
  List.flatMap_append

@[simp] theorem heldIn_nil : heldIn [] = [] := rfl

@[simp] theorem heldIn_letter (c : Char) (rest : List Piece) :
    heldIn (.letter c :: rest) = heldIn rest := rfl

@[simp] theorem heldIn_gap (text : List Char) (rest : List Piece) :
    heldIn (.gap text :: rest) = heldIn rest := rfl

@[simp] theorem heldIn_held (name : String) (text : List Char) (rest : List Piece) :
    heldIn (.held name text :: rest) = (name, text) :: heldIn rest := rfl

@[simp] theorem heldIn_append (front back : List Piece) :
    heldIn (front ++ back) = heldIn front ++ heldIn back :=
  List.filterMap_append

theorem mem_heldIn {ps : List Piece} {name : String} {text : List Char}
    (h : (name, text) ∈ heldIn ps) : .held name text ∈ ps := by
  obtain ⟨piece, hmem, hcapture⟩ := List.mem_filterMap.mp h
  cases piece with
  | letter | gap => exact absurd hcapture (by simp [Piece.capture?])
  | held name' text' =>
      obtain ⟨rfl, rfl⟩ := Prod.mk.inj (Option.some.inj hcapture)
      exact hmem

/-- The pieces are such as the pattern takes a text in. -/
def Pattern.Takes : Pattern → List Piece → Prop
  | .empty, ps => ps = []
  | .letter c, ps => ∃ d, ps = [.letter d] ∧ Text.sameLetter c d = true
  | .oneOf letters, ps => ∃ d, ps = [.letter d] ∧ ∃ c ∈ letters, Text.sameLetter c d = true
  | .blanks, ps => ∃ text, ps = [.gap text] ∧ text ≠ [] ∧ ∀ c ∈ text, Text.isBlank c = true
  | .field name, ps => ∃ text, ps = [.held name text] ∧ text ≠ [] ∧ ∀ c ∈ text, c ≠ '\n'
  | .seq first second, ps =>
    ∃ front back, ps = front ++ back ∧ first.Takes front ∧ second.Takes back
  | .either first second, ps => first.Takes ps ∨ second.Takes ps

theorem Piece.Sound.text_ne_nil : ∀ {piece : Piece}, piece.Sound → piece.text ≠ []
  | .letter _, _ => List.cons_ne_nil _ _
  | .gap _, h => h.1
  | .held _ _, h => h.1

theorem Pattern.Takes.sound {p : Pattern} {ps : List Piece} (h : p.Takes ps) :
    ∀ piece ∈ ps, piece.Sound := by
  induction p generalizing ps with
  | empty =>
      obtain rfl : ps = [] := h
      simp
  | letter c =>
      obtain ⟨d, rfl, -⟩ := h
      simp [Piece.Sound]
  | oneOf letters =>
      obtain ⟨d, rfl, -⟩ := h
      simp [Piece.Sound]
  | blanks =>
      obtain ⟨gap, rfl, hgap⟩ := h
      exact List.forall_mem_singleton.mpr hgap
  | field name =>
      obtain ⟨text, rfl, htext⟩ := h
      exact List.forall_mem_singleton.mpr htext
  | seq first second ihfirst ihsecond =>
      obtain ⟨front, back, rfl, hfront, hback⟩ := h
      exact List.forall_mem_append.mpr ⟨ihfirst hfront, ihsecond hback⟩
  | either first second ihfirst ihsecond =>
      rcases h with h | h
      · exact ihfirst h
      · exact ihsecond h

/-- No piece is empty, so a text is as long as its pieces are many, or longer. -/
theorem length_le_textOf {ps : List Piece} (h : ∀ piece ∈ ps, piece.Sound) :
    ps.length ≤ (textOf ps).length := by
  induction ps with
  | nil => exact Nat.le_refl 0
  | cons piece rest ih =>
      obtain ⟨hpiece, hrest⟩ := List.forall_mem_cons.mp h
      have hpos := List.length_pos_iff.mpr hpiece.text_ne_nil
      have hmore := ih hrest
      rw [textOf_cons, List.length_append, List.length_cons]
      omega

/-! ### Running a pattern -/

section Run

variable {β : Type} {cs : List Char} {result : β}

theorem runBlanks_sound {next : List Char → Option β} (h : runBlanks next cs = some result) :
    ∃ gap rest, cs = gap ++ rest ∧ (gap ≠ [] ∧ ∀ c ∈ gap, Text.isBlank c = true) ∧
      next rest = some result := by
  induction cs with
  | nil => simp [runBlanks] at h
  | cons c cs ih =>
      rw [runBlanks] at h
      by_cases hc : Text.isBlank c = true
      · rw [if_pos hc] at h
        cases hlonger : runBlanks next cs with
        | some found =>
            rw [hlonger] at h
            obtain ⟨gap, rest, rfl, ⟨-, hgap⟩, hnext⟩ := ih (hlonger.trans h)
            refine ⟨c :: gap, rest, rfl, ⟨by simp, ?_⟩, hnext⟩
            intro d hd
            rcases List.mem_cons.mp hd with rfl | hd
            · exact hc
            · exact hgap d hd
        | none =>
            rw [hlonger] at h
            exact ⟨[c], cs, rfl, ⟨by simp, by simpa using hc⟩, h⟩
      · rw [if_neg hc] at h
        exact absurd h (by simp)

theorem runField_sound {next : List Char → List Char → Option β} {taken : List Char}
    (h : runField next taken cs = some result) :
    ∃ text rest, cs = text ++ rest ∧ (text ≠ [] ∧ ∀ c ∈ text, c ≠ '\n') ∧
      next (taken ++ text) rest = some result := by
  induction cs generalizing taken with
  | nil => simp [runField] at h
  | cons c cs ih =>
      rw [runField] at h
      by_cases hc : c = '\n'
      · rw [if_pos hc] at h
        exact absurd h (by simp)
      · rw [if_neg hc] at h
        cases hshort : next (taken ++ [c]) cs with
        | some found =>
            rw [hshort] at h
            exact ⟨[c], cs, rfl, ⟨by simp, by simpa using hc⟩, hshort.trans h⟩
        | none =>
            rw [hshort] at h
            obtain ⟨text, rest, rfl, ⟨-, htext⟩, hnext⟩ := ih h
            refine ⟨c :: text, rest, rfl, ⟨by simp, ?_⟩, ?_⟩
            · intro d hd
              rcases List.mem_cons.mp hd with rfl | hd
              · exact hc
              · exact htext d hd
            · rwa [List.append_assoc] at hnext

/-- **A result comes from behind pieces that the pattern takes**, with what their fields hold. -/
theorem Pattern.run_takes {p : Pattern} {cs : List Char} {taken : Captures}
    {next : List Char → Captures → Option β} {result : β} (h : p.run cs taken next = some result) :
    ∃ ps rest, cs = textOf ps ++ rest ∧ p.Takes ps ∧
      next rest (taken ++ heldIn ps) = some result := by
  induction p generalizing cs taken next result with
  | empty => exact ⟨[], cs, rfl, rfl, by rwa [heldIn_nil, List.append_nil]⟩
  | letter c =>
      cases cs with
      | nil => exact absurd h (by simp [run])
      | cons d cs =>
          rw [run] at h
          by_cases hsame : Text.sameLetter c d = true
          · rw [if_pos hsame] at h
            exact ⟨[.letter d], cs, rfl, ⟨d, rfl, hsame⟩, by simpa using h⟩
          · rw [if_neg hsame] at h
            exact absurd h (by simp)
  | oneOf letters =>
      cases cs with
      | nil => exact absurd h (by simp [run])
      | cons d cs =>
          rw [run] at h
          by_cases hlisted : letters.any (Text.listsLetter · d) = true
          · rw [if_pos hlisted] at h
            obtain ⟨c, hc, hlists⟩ := List.any_eq_true.mp hlisted
            exact ⟨[.letter d], cs, rfl, ⟨d, rfl, c, hc, Text.sameLetter_of_listsLetter hlists⟩,
              by simpa using h⟩
          · rw [if_neg hlisted] at h
            exact absurd h (by simp)
  | blanks =>
      obtain ⟨gap, rest, rfl, hgap, hnext⟩ := runBlanks_sound h
      exact ⟨[.gap gap], rest, by rw [textOf_singleton, Piece.text], ⟨gap, rfl, hgap⟩,
        by simpa using hnext⟩
  | field name =>
      obtain ⟨text, rest, rfl, htext, hnext⟩ := runField_sound h
      exact ⟨[.held name text], rest, by rw [textOf_singleton, Piece.text], ⟨text, rfl, htext⟩,
        hnext⟩
  | seq first second ihfirst ihsecond =>
      obtain ⟨front, rest, rfl, hfront, hnext⟩ := ihfirst h
      obtain ⟨back, rest, rfl, hback, hnext⟩ := ihsecond hnext
      refine ⟨front ++ back, rest, by simp, ⟨front, back, rfl, hfront, hback⟩, ?_⟩
      rwa [heldIn_append, ← List.append_assoc]
  | either first second ihfirst ihsecond =>
      rw [run] at h
      cases hrun : first.run cs taken next with
      | some found =>
          rw [hrun] at h
          obtain ⟨ps, rest, hcs, hps, hnext⟩ := ihfirst (hrun.trans h)
          exact ⟨ps, rest, hcs, Or.inl hps, hnext⟩
      | none =>
          rw [hrun] at h
          obtain ⟨ps, rest, hcs, hps, hnext⟩ := ihsecond h
          exact ⟨ps, rest, hcs, Or.inr hps, hnext⟩

end Run

end Phrase

end CommandBar
