/-
Sentence marks at the end of an utterance.

Whether an utterance is ended with marks and blanks or not, every template finds the same
in it, exactly if no mark of the ending is set apart by a blank.  In the one direction the
same text is searched, whichever template is looked for.  In the other a longer text is
searched, and a ruler that is laid over it is found there and not in the shorter one.
-/
import CommandBar.Proofs.Ruler

namespace CommandBar

namespace Phrase

/-- **Marks at the end are ignored exactly if none is set apart.**  An utterance that is ended with
marks and blanks gives every template the same fields, or none, as without them, unless a mark of
the ending stands behind a blank that stands behind something else; and then some template tells
the two apart. -/
theorem Template.search?_closing_iff {utterance closing : String}
    (hclosing : ∀ c ∈ closing.toList, Text.isBlank c = true ∨ isSentenceMark c = true) :
    (∀ text t, Template.ofText text = .ok t →
        t.search? (utterance ++ closing) = t.search? utterance) ↔
      ¬ Detached utterance.toList closing.toList := by
  constructor
  · intro hsame hdetached
    have hlonger := kept_append_longer hdetached
    rw [← String.toList_append, ← searched_eq_kept, ← searched_eq_kept] at hlonger
    obtain ⟨text, t, hread, hdiffer⟩ := exists_search?_ne hlonger
    exact hdiffer (hsame text t hread)
  · intro hjoined text t _
    have hsearched : searched (utterance ++ closing) = searched utterance := by
      rw [searched_eq_kept, String.toList_append, kept_append hclosing hjoined, searched_eq_kept]
    rw [Template.search?, Template.search?, hsearched]

/-- An example: two marks and a line break right behind the last word. -/
theorem Template.search?_closing_iff_joined :
    (∀ c ∈ "?!\n".toList, Text.isBlank c = true ∨ isSentenceMark c = true) ∧
      ∃ t, Template.ofText "stop" = .ok t ∧ t.search? "stop" ≠ none ∧
        t.search? ("stop" ++ "?!\n") = t.search? "stop" := by
  have hmarks : ∀ c ∈ "?!".toList, isSentenceMark c = true := List.all_eq_true.mp rfl
  have hblanks : ∀ c ∈ "\n".toList, Text.isBlank c = true := List.all_eq_true.mp rfl
  have hclosing : ∀ c ∈ "?!\n".toList, Text.isBlank c = true ∨ isSentenceMark c = true :=
    List.forall_mem_append.mpr
      ⟨fun c hc => Or.inr (hmarks c hc), fun c hc => Or.inl (hblanks c hc)⟩
  have hjoined : ¬ Detached "stop".toList ("?!".toList ++ "\n".toList) :=
    not_detached (fun c hc => Option.some.inj hc ▸ rfl) hmarks hblanks
  refine ⟨hclosing, .required (.letter 's' (.letter 't' (.letter 'o' (.letter 'p' .done)))) .done,
    by cbv, by decide +kernel, ?_⟩
  exact (Template.search?_closing_iff hclosing).mpr hjoined "stop" _ (by cbv)

/-- A mark behind a blank hides the phrase in front of it. -/
theorem Template.search?_hidden_by_mark :
    (∀ c ∈ " .".toList, Text.isBlank c = true ∨ isSentenceMark c = true) ∧
      ∃ t, Template.ofText "a" = .ok t ∧ t.search? "a" = some [] ∧
        t.search? ("a" ++ " .") = none := by
  refine ⟨?_, .required (.letter 'a' .done) .done, by cbv, ?_, ?_⟩
  · exact List.forall_mem_cons.mpr ⟨Or.inl rfl, List.forall_mem_singleton.mpr (Or.inr rfl)⟩
  · decide +kernel
  · decide +kernel

end Phrase

end CommandBar
