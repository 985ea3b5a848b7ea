/-
Templates without capitals beyond the first plane.

Joining alternatives moves letters into sets, but it makes no letters: every letter of
a pattern is a letter of its template, and so a character of the text that the template
is written as.  A pattern whose letters are all within the first plane, or small, is
plain, whatever sets they have come into.
-/
import CommandBar.Proofs.Grammar

namespace CommandBar

namespace Phrase

namespace Pattern

section Uses

variable {allowed : Char → Prop} {row : List Pattern} {rows others : List (List Pattern)}

/-- Every letter of the pattern is allowed. -/
def Uses (allowed : Char → Prop) : Pattern → Prop
  | .letter c => allowed c
  | .oneOf letters => ∀ c ∈ letters, allowed c
  | .seq first second => first.Uses allowed ∧ second.Uses allowed
  | .either first second => first.Uses allowed ∧ second.Uses allowed
  | _ => True

theorem Uses.plain (hallowed : ∀ c, allowed c → c.toNat ≤ 0xFFFF ∨ Text.lowerChar c = c)
    {p : Pattern} (h : p.Uses allowed) : p.Plain := by
  induction p with
  | oneOf letters =>
      intro c hc
      refine (hallowed c (h c hc)).imp_right ?_
      intro hsmall
      rwa [hsmall]
  | seq first second ihfirst ihsecond => exact ⟨ihfirst h.1, ihsecond h.2⟩
  | either first second ihfirst ihsecond => exact ⟨ihfirst h.1, ihsecond h.2⟩
  | empty | letter | blanks | field => trivial

/-! ### Rows of steps -/

/-- Every letter of the row is allowed. -/
def RowUses (allowed : Char → Prop) (row : List Pattern) : Prop :=
  ∀ step ∈ row, step.Uses allowed

theorem RowUses.append {front back : List Pattern} (hfront : RowUses allowed front)
    (hback : RowUses allowed back) : RowUses allowed (front ++ back) :=
  List.forall_mem_append.mpr ⟨hfront, hback⟩

theorem RowUses.cons {step : Pattern} (hstep : step.Uses allowed) (hrow : RowUses allowed row) :
    RowUses allowed (step :: row) :=
  List.forall_mem_cons.mpr ⟨hstep, hrow⟩

theorem RowUses.ofSteps (h : RowUses allowed row) : (ofSteps row).Uses allowed := by
  induction row with
  | nil => trivial
  | cons step rest ih => exact ⟨h step (by simp), ih fun other hother => h other (by simp [hother])⟩

theorem firstOf_uses (h : ∀ row ∈ rows, RowUses allowed row) : (firstOf rows).Uses allowed := by
  induction rows with
  | nil => trivial
  | cons row rest ih =>
      have hrow : (Pattern.ofSteps row).Uses allowed := (h row (by simp)).ofSteps
      cases rest with
      | nil => exact hrow
      | cons other rest => exact ⟨hrow, ih fun row' hrow' => h row' (by simp [hrow'])⟩

/-! ### Joining -/

theorem uses_of_letters? {step : Pattern} {letters : List Char}
    (h : step.letters? = some letters) (huses : step.Uses allowed) : ∀ c ∈ letters, allowed c := by
  cases step with
  | letter c =>
      obtain rfl : [c] = letters := Option.some.inj h
      exact List.forall_mem_singleton.mpr huses
  | oneOf cs =>
      obtain rfl : cs = letters := Option.some.inj h
      exact huses
  | empty | blanks | field | seq | either => simp [letters?] at h

theorem behind_uses {letters : List Char} {rests : List (List Pattern)}
    (h : others.mapM (behind? letters) = some rests) (huses : ∀ row ∈ others, RowUses allowed row) :
    ∀ rest ∈ rests, RowUses allowed rest := by
  induction others generalizing rests with
  | nil =>
      obtain rfl : [] = rests := by simpa using h
      simp
  | cons row others ih =>
      obtain ⟨rest, more, hrest, hmore, rfl⟩ := mapM_cons_eq_some h
      obtain ⟨step, rfl, -⟩ := fits_of_behind? hrest
      have hrow := huses (step :: rest) (by simp)
      have hothers := ih hmore fun row hrow => huses row (by simp [hrow])
      simp only [List.mem_cons, forall_eq_or_imp]
      exact ⟨fun other hother => hrow other (by simp [hother]), hothers⟩

theorem shared_uses (huses : ∀ row' ∈ row :: others, RowUses allowed row') :
    RowUses allowed (shared row others).1 ∧
      ∀ rest ∈ (shared row others).2, RowUses allowed rest := by
  induction row generalizing others with
  | nil => exact ⟨by simp [RowUses, shared], huses⟩
  | cons step row ih =>
      rw [shared]
      split
      · exact ⟨by simp [RowUses], huses⟩
      · next rests hrests =>
          -- the letter that goes to the front is taken off every row
          obtain ⟨letters, -, hmap⟩ := Option.bind_eq_some_iff.mp hrests
          have hfirst := huses (step :: row) (by simp)
          have hothers := behind_uses hmap fun row' hrow' => huses row' (by simp [hrow'])
          have hrow : ∀ row' ∈ row :: rests, RowUses allowed row' := by
            simp only [List.mem_cons, forall_eq_or_imp]
            exact ⟨fun other hother => hfirst other (by simp [hother]), hothers⟩
          obtain ⟨hfront, hleft⟩ := ih hrow
          exact ⟨hfront.cons (hfirst step (by simp)), hleft⟩

theorem singles_use {sets : List (List Char)} (h : rows.mapM single? = some sets)
    (huses : ∀ row ∈ rows, RowUses allowed row) : ∀ c ∈ sets.flatten, allowed c := by
  induction rows generalizing sets with
  | nil =>
      obtain rfl : [] = sets := by simpa using h
      simp
  | cons row rows ih =>
      obtain ⟨letters, more, hletters, hmore, rfl⟩ := mapM_cons_eq_some h
      obtain ⟨step, rfl⟩ := exists_of_single? hletters
      have hset := uses_of_letters? hletters (huses [step] (by simp) step (by simp))
      have hothers := ih hmore fun row hrow => huses row (by simp [hrow])
      intro c hc
      rw [List.flatten_cons, List.mem_append] at hc
      exact hc.elim (hset c) (hothers c)

theorem choice_uses (huses : ∀ row ∈ rows, RowUses allowed row) : (choice rows).Uses allowed := by
  unfold choice
  split
  · next sets hsets =>
      intro c hc
      exact singles_use hsets huses c (List.mem_eraseDups.mp hc)
  · exact firstOf_uses huses

/-- **Joining makes no letters.** -/
theorem join_uses (huses : ∀ row ∈ rows, RowUses allowed row) : RowUses allowed (join rows) := by
  cases rows with
  | nil => simp [RowUses, join]
  | cons row others =>
      cases others with
      | nil => exact huses row (by simp)
      | cons other others =>
          obtain ⟨hfront, hrests⟩ := shared_uses huses
          exact hfront.append (by simpa [RowUses] using choice_uses hrests)

end Uses

end Pattern

/-! ### The letters of a template -/

open Pattern (RowUses join_uses)

variable {allowed : Char → Prop}

mutual

/-- **The letters of the steps are characters of the text that the template is written as.** -/
theorem Template.Written.steps_use {inGroup : Bool} : ∀ {t : Template} {cs : List Char},
    t.Written inGroup cs → (∀ c ∈ cs, allowed c) → ∀ started, RowUses allowed (t.steps started)
  | .done, _, _, _, _ => by simp [Template.steps, RowUses]
  | .required word rest, _, h, hcs, started => by
      obtain ⟨gap, text, more, rfl, -, -, ⟨-, hword, -⟩, hrest⟩ := h
      have hpresent := Word.Written.steps_use hword fun c hc => hcs c (by simp [hc])
      have hbehind := Template.Written.steps_use hrest (fun c hc => hcs c (by simp [hc])) true
      refine RowUses.append ?_ hbehind
      cases started with
      | true => exact hpresent.cons trivial
      | false => exact hpresent
  | .optional choices rest, _, h, hcs, started => by
      obtain ⟨gap, text, more, rfl, -, -, ⟨texts, rfl, -, hchoices⟩, hrest⟩ := h
      have hgroup := join_uses (Choices.Written.rows_use hchoices fun text htext c hc =>
        hcs c (by
          have hin := (infix_intercalate (List.mem_of_mem_filter htext)).subset hc
          simp [grouped, hin]))
      have hbehind := Template.Written.steps_use hrest (fun c hc => hcs c (by simp [hc])) started
      refine hbehind.cons ⟨RowUses.ofSteps ?_, trivial⟩
      cases started with
      | true => exact hgroup.cons trivial
      | false => exact hgroup.append (by simp [RowUses, Pattern.Uses])

theorem Word.Written.steps_use {inGroup : Bool} : ∀ {w : Word} {cs : List Char},
    w.Written inGroup cs → (∀ c ∈ cs, allowed c) → RowUses allowed w.steps
  | .done, _, _, _ => by simp [Word.steps, RowUses]
  | .letter c rest, _, h, hcs => by
      obtain ⟨more, rfl, -, hrest⟩ := h
      exact (Word.Written.steps_use hrest fun d hd => hcs d (by simp [hd])).cons (hcs c (by simp))
  | .field name rest, _, h, hcs => by
      obtain ⟨more, rfl, -, hrest⟩ := h
      exact (Word.Written.steps_use hrest fun d hd => hcs d (by simp [hd])).cons trivial
  | .group choices rest, _, h, hcs => by
      obtain ⟨texts, more, rfl, -, hchoices, hrest⟩ := h
      refine RowUses.append (join_uses (Choices.Written.rows_use hchoices ?_)) ?_
      · intro text htext c hc
        have hin := (infix_intercalate htext).subset hc
        exact hcs c (by simp [grouped, hin])
      · exact Word.Written.steps_use hrest fun c hc => hcs c (by simp [hc])

theorem Choices.Written.rows_use : ∀ {choices : Choices} {texts : List (List Char)},
    choices.Written texts → (∀ text ∈ texts, ∀ c ∈ text, allowed c) →
      ∀ row ∈ choices.rows, RowUses allowed row
  | .done, _, _, _ => by simp [Choices.rows]
  | .choice template rest, _, h, htexts => by
      obtain ⟨text, more, rfl, htemplate, hrest⟩ := h
      rw [Choices.rows, List.forall_mem_cons]
      exact ⟨Template.Written.steps_use htemplate (htexts text (by simp)) false,
        Choices.Written.rows_use hrest fun text htext => htexts text (by simp [htext])⟩

end

theorem Template.Written.plain {inGroup : Bool} {t : Template} {cs : List Char}
    (h : t.Written inGroup cs)
    (hcs : ∀ c ∈ cs, c.toNat ≤ 0xFFFF ∨ Text.lowerChar c = c) : t.pattern.Plain :=
  (h.steps_use hcs false).ofSteps.plain fun _ hc => hc

end Phrase

end CommandBar
