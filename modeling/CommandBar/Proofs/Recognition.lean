/-
Recognizing phrases.

What a balanced template says is read off the way it is written, and a search finds
something exactly where a part of the utterance is said by the template.  Matching
never finds more.  It finds all of it for every template whose sets of letters have no
lone capital beyond the first plane, in particular if there is no such capital in the
template at all.

The condition cannot be dropped.  A set of letters is looked up with the small form of
a letter, and beyond the first plane the set itself is not made small; so a capital of
such a script that is an alternative among other single letters is not found, not even
as it is written, while on its own it is.
-/
import CommandBar.Proofs.Capitals
import CommandBar.Proofs.Reading

namespace CommandBar

namespace Phrase

/-- **A template recognizes its language.**  Every balanced text is read, as the one template that
is written so; and if some word is required, in it and in every alternative that is not empty, and
every optional word has an alternative that is not empty, a search finds something exactly if a
part of what is searched is said by the template, the part beginning at the front or behind a
blank and ending at the end or before a last line break.  For templates that are not plain it may
find less, and every text without a capital beyond the first plane makes a plain template. -/
theorem Template.ofText_recognizes {text : String} (hbalanced : Balanced text.toList) :
    ∃ t, Template.ofText text = .ok t ∧ t.Written false text.toList ∧
      (∀ other : Template, other.Written false text.toList → other = t) ∧
      ((∀ c ∈ text.toList, c.toNat ≤ 0xFFFF ∨ Text.lowerChar c = c) → t.pattern.Plain) ∧
      (t.HasRequired → t.Regular → ∀ utterance,
        (t.search? utterance ≠ none → Occurs t.Says (searched utterance)) ∧
        (t.pattern.Plain → Occurs t.Says (searched utterance) → t.search? utterance ≠ none)) := by
  obtain ⟨t, hread, hwritten⟩ := ofText_written hbalanced
  have hunique : ∀ other : Template, other.Written false text.toList → other = t := by
    intro other hother
    have hreads := (written_iff.mp hother).2
    rw [hread] at hreads
    exact (Except.ok.inj hreads).symm
  refine ⟨t, hread, hwritten, hunique, hwritten.plain, ?_⟩
  intro hrequired hregular utterance
  have hfits : ∀ said, t.pattern.Fits said ↔ t.Says said :=
    Template.pattern_fits hwritten.full hregular hrequired
  rw [search?_ne_none_iff]
  constructor
  · intro hfound
    obtain ⟨taken, hsearch⟩ := Option.isSome_iff_exists.mp hfound
    exact (Pattern.search?_sound hsearch).imp fun said => (hfits said).mp
  · intro hplain hoccurs
    exact Pattern.search?_complete hplain (hoccurs.imp fun said => (hfits said).mpr)

/-- An example: the phrase may begin at a later word and the optional word may be left out, but a
required word may not. -/
theorem Template.ofText_recognizes_search :
    Balanced "search [youtube|] for $query".toList ∧
      ∃ t, Template.ofText "search [youtube|] for $query" = .ok t ∧ t.HasRequired ∧ t.Regular ∧
        t.pattern.Plain ∧ Occurs t.Says (searched "please search for cats") ∧
        ¬ Occurs t.Says (searched "open youtube") := by
  have hbalanced : Balanced "search [youtube|] for $query".toList := by decide +kernel
  obtain ⟨t, hread, -, -, hplain, hrecognizes⟩ := Template.ofText_recognizes hbalanced
  have hwithin : "search [youtube|] for $query".toList.all (fun c => decide (c.toNat ≤ 0xFFFF)) =
      true := by decide +kernel
  have hplain : t.pattern.Plain := hplain fun c hc =>
    Or.inl (of_decide_eq_true (List.all_eq_true.mp hwithin c hc))
  obtain rfl : searchTemplate = t := Except.ok.inj (searchTemplate_read.symm.trans hread)
  have hrequired : searchTemplate.HasRequired := trivial
  have hregular : searchTemplate.Regular := by
    simp [searchTemplate, Word.ofLetters, Template.Regular, Word.Regular, Choices.Regular,
      Template.HasRequired]
  have hfound : searchTemplate.search? "please search for cats" ≠ none := by decide +kernel
  have hmissed : searchTemplate.search? "open youtube" = none := by decide +kernel
  have hrecognizes := hrecognizes hrequired hregular
  exact ⟨hbalanced, searchTemplate, hread, hrequired, hregular, hplain,
    (hrecognizes _).1 hfound, fun hoccurs => (hrecognizes _).2 hplain hoccurs hmissed⟩

/-- A capital beyond the first plane is not found among single letters, although the template says
it. -/
theorem Template.search?_misses_capital :
    Balanced "[𐐀|x] y".toList ∧ ∃ t, Template.ofText "[𐐀|x] y" = .ok t ∧
      t.Written false "[𐐀|x] y".toList ∧ t.HasRequired ∧ t.Regular ∧
      Occurs t.Says (searched "𐐀 y") ∧ t.search? "𐐀 y" = none := by
  have hbalanced : Balanced "[𐐀|x] y".toList := by decide +kernel
  have hread : Template.ofText "[𐐀|x] y" =
      .ok (.required (.group (.choice (.required (.letter '𐐀' .done) .done)
        (.choice (.required (.letter 'x' .done) .done) .done)) .done)
          (.required (.letter 'y' .done) .done)) := rfl
  have hcapital : Word.Speaks (.letter '𐐀' .done) ['𐐀'] :=
    ⟨'𐐀', [], rfl, Text.sameLetter_refl '𐐀', rfl⟩
  have hlast : Word.Speaks (.letter 'y' .done) ['y'] :=
    ⟨'y', [], rfl, Text.sameLetter_refl 'y', rfl⟩
  refine ⟨hbalanced, _, hread, written_iff.mpr ⟨hbalanced, hread⟩, trivial, ?_, ?_, ?_⟩
  · simp [Template.Regular, Word.Regular, Choices.Regular, Template.HasRequired]
  · -- the whole utterance is said: the first alternative and the last word
    have hsearched : searched "𐐀 y" = [] ++ (['𐐀', ' ', 'y'] ++ []) := by decide +kernel
    refine ⟨[], ['𐐀', ' ', 'y'], [], hsearched, by simp, ⟨[['𐐀'], ['y']], ?_, ?_⟩, Or.inl rfl⟩
    · refine ⟨['𐐀'], [['y']], rfl, ⟨['𐐀'], [], rfl, Or.inl ⟨[['𐐀']], ?_, [], rfl, rfl⟩, rfl⟩, ?_⟩
      · exact ⟨['𐐀'], [], rfl, hcapital, rfl⟩
      · exact ⟨['y'], [], rfl, hlast, rfl⟩
    · exact ⟨[' ', 'y'], rfl, [' '], [], rfl, ⟨by simp, List.all_eq_true.mp rfl⟩, rfl⟩
  · decide +kernel

end Phrase

end CommandBar
