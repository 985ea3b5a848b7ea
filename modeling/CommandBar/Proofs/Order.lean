/-
The order of the widgets never decides.

Validation looks at the widgets to find the one that a command is for.  It keeps those
that fit and asks whether exactly one is left, so a permutation of the widgets does no
more than permute what is kept: the count is the same, and a single widget that is left
is the same widget.  An error says how many there are and not which, and the type that a
widget has to be of is settled before anything is looked up.
-/
import CommandBar.Proofs.Validation
import Mathlib.Data.List.Perm.Basic

namespace CommandBar

variable {widgets widgets' : List Widget}

/-! ### Finding the widget -/

/-- Two orders of the same widgets are both empty, or neither is. -/
theorem Widget.perm_cases (h : widgets.Perm widgets') :
    widgets = [] ∧ widgets' = [] ∨
      ∃ w rest w' rest', widgets = w :: rest ∧ widgets' = w' :: rest' := by
  cases widgets with
  | nil => exact Or.inl ⟨rfl, List.nil_perm.mp h⟩
  | cons w rest =>
      cases widgets' with
      | nil => exact absurd (List.perm_nil.mp h) (List.cons_ne_nil w rest)
      | cons w' rest' => exact Or.inr ⟨w, rest, w', rest', rfl, rfl⟩

namespace Resolution

theorem withId_perm (ref : Target) (h : widgets.Perm widgets') :
    (withId ref widgets).Perm (withId ref widgets') := by
  unfold withId
  split
  · exact h.filter _
  · exact .nil

theorem withTitle_perm (ref : Target) (h : widgets.Perm widgets') :
    (withTitle ref widgets).Perm (withTitle ref widgets') := by
  unfold withTitle
  split
  · exact h.filter _
  · exact .nil

/-- An id decides for both orders or for neither. -/
theorem candidates_perm (ref : Target) (h : widgets.Perm widgets') :
    (candidates ref widgets).Perm (candidates ref widgets') := by
  have hid : (withId ref widgets).Perm (withId ref widgets') := withId_perm ref h
  unfold candidates
  rcases Widget.perm_cases hid with ⟨hnone, hnone'⟩ | ⟨w, rest, w', rest', hfound, hfound'⟩
  · rw [hnone, hnone']
    exact withTitle_perm ref h
  · rw [hfound, hfound'] at hid ⊢
    exact hid

/-- Nothing but the number of the widgets is looked at, unless it is one. -/
theorem single_perm (described : String) (h : widgets.Perm widgets') :
    single described widgets = single described widgets' := by
  cases widgets with
  | nil => rw [List.nil_perm.mp h]
  | cons w rest =>
      cases rest with
      | nil => rw [List.singleton_perm.mp h]
      | cons v rest =>
          have hlength : rest.length + 1 + 1 = widgets'.length := h.length_eq
          obtain ⟨w', v', rest', rfl⟩ : ∃ w' v' rest', widgets' = w' :: v' :: rest' := by
            match widgets', hlength with
            | w' :: v' :: rest', _ => exact ⟨w', v', rest', rfl⟩
          simp only [single, h.length_eq]

theorem resolve_perm (ref : Option Target) (type : Option String) (h : widgets.Perm widgets') :
    resolve ref type widgets = resolve ref type widgets' := by
  unfold resolve
  split
  · exact single_perm _ (candidates_perm _ h)
  · exact single_perm _ (h.filter _)
  · rfl

end Resolution

/-! ### Validating -/

namespace Validation

theorem openOrFocus_perm (r : Request) (type : String) (h : widgets.Perm widgets') :
    openOrFocus r type widgets = openOrFocus r type widgets' := by
  have hsame : (widgets.filter fun w => w.type == type).Perm
      (widgets'.filter fun w => w.type == type) :=
    h.filter _
  unfold openOrFocus
  rcases Widget.perm_cases hsame with ⟨hnone, hnone'⟩ | ⟨w, rest, w', rest', hfound, hfound'⟩
  · rw [hnone, hnone']
  · rw [hfound, hfound'] at hsame ⊢
    simp only [Resolution.resolve_perm _ _ hsame]

theorem locate_perm (r : Request) (h : widgets.Perm widgets') :
    locate r widgets = locate r widgets' := by
  have htargeted : targeted r widgets = targeted r widgets' := by
    simp only [targeted, Resolution.resolve_perm _ _ h]
  unfold locate
  split
  · rfl
  · rfl
  · exact openOrFocus_perm r _ h
  · rw [htargeted]

/-- **The order of the widgets never decides.**  The outcome is the same for every permutation
of them, whichever ids, titles and types they share: the same command in every part, or the same
error with the same words. -/
theorem validate_perm (answer : Answer) (utterance : String) (vocabulary : Vocabulary)
    (catalog : Catalog) (h : widgets.Perm widgets') :
    validate answer utterance widgets vocabulary catalog =
      validate answer utterance widgets' vocabulary catalog := by
  simp only [validate, locate_perm _ h]

/-- Three widgets of which two share an id, and all share a title up to case. -/
def namesakes : List Widget := [
  { id := "clock-1", type := "clock", title := "Desk" },
  { id := "clock-1", type := "notes", title := "DESK" },
  { id := "notes-2", type := "notes", title := "desk" }]

theorem validate_perm_namesakes :
    namesakes.Perm namesakes.reverse ∧
      validate [("action", .str "removeWidget"), ("targetWidgetTitle", .str "Desk")] "close it"
          namesakes.reverse .standard .standard =
        (Refusal.manyMatches 3 "\"Desk\"").raise ∧
      (validate [("action", .str "removeWidget"), ("targetWidgetId", .str "notes-2")] "close it"
          namesakes.reverse .standard .standard).map (·.target) =
        .ok (some ⟨some "notes-2", some "desk"⟩) := by
  have hperm : namesakes.Perm namesakes.reverse := namesakes.reverse_perm.symm
  refine ⟨hperm, ?_, ?_⟩
  · rw [← validate_perm _ _ _ _ hperm]
    decide +kernel
  · rw [← validate_perm _ _ _ _ hperm]
    decide +kernel

end Validation

end CommandBar
