/-
What stops the reading of a template.

Only a bracket that is never closed does.  The reader of a template calls itself
through the readers of its words and of their alternatives, so each of these is
taken with a reader of templates that stops for nothing else, and the nesting
bound carries the induction.
-/
import CommandBar.Phrase.Template
import CommandBar.Proofs.Refusal

namespace CommandBar

/-- The fault is a word in which a bracket is never closed. -/
def Fault.IsUnbalanced (fault : Fault) : Prop :=
  ∃ word, fault = .unbalanced word

namespace Phrase

section Reader

variable {read : List Char → Except Fault Template}

theorem readChoices_stops (hread : ∀ cs, StopsWith Fault.IsUnbalanced (read cs))
    (texts : List (List Char)) : StopsWith Fault.IsUnbalanced (readChoices read texts) := by
  induction texts with
  | nil => exact StopsWith.ok _
  | cons text rest ih =>
      exact StopsWith.bind (hread text) fun _ _ =>
        StopsWith.bind ih fun _ _ => StopsWith.ok _

theorem readParts_stops (hread : ∀ cs, StopsWith Fault.IsUnbalanced (read cs)) (word : List Char)
    (skipped : Nat) (cs : List Char) :
    StopsWith Fault.IsUnbalanced (readParts read word skipped cs) := by
  induction cs generalizing skipped with
  | nil =>
      cases skipped with
      | zero => exact StopsWith.ok _
      | succ skipped => exact StopsWith.ok _
  | cons c rest ih =>
      cases skipped with
      | succ skipped => exact ih skipped
      | zero =>
          unfold readParts
          split
          · split
            · exact StopsWith.error ⟨_, rfl⟩
            · exact StopsWith.bind (readChoices_stops hread _) fun _ _ =>
                StopsWith.bind (ih _) fun _ _ => StopsWith.ok _
          · split
            · exact StopsWith.bind (ih _) fun _ _ => StopsWith.ok _
            · exact StopsWith.bind (ih _) fun _ _ => StopsWith.ok _

theorem readWords_stops (hread : ∀ cs, StopsWith Fault.IsUnbalanced (read cs))
    (words : List (List Char)) : StopsWith Fault.IsUnbalanced (readWords read words) := by
  induction words with
  | nil => exact StopsWith.ok _
  | cons word rest ih =>
      unfold readWords
      split
      · exact StopsWith.bind (readChoices_stops hread _) fun _ _ =>
          StopsWith.bind ih fun _ _ => StopsWith.ok _
      · exact StopsWith.bind (readParts_stops hread _ _ _) fun _ _ =>
          StopsWith.bind ih fun _ _ => StopsWith.ok _

end Reader

theorem readTemplate_stops (fuel : Nat) (cs : List Char) :
    StopsWith Fault.IsUnbalanced (readTemplate fuel cs) := by
  induction fuel generalizing cs with
  | zero => exact StopsWith.ok _
  | succ fuel ih => exact readWords_stops ih _

/-- A template that cannot be read has a word with an open bracket. -/
theorem Template.ofText_stops (text : String) :
    StopsWith Fault.IsUnbalanced (Template.ofText text) :=
  readTemplate_stops _ _

end Phrase

end CommandBar
