/-
Templates in which no word is required.

An optional word brings a gap along, and the gap stands behind it until a required word
has come.  Where none ever comes every word that is present has its gap behind it, the
last one too; so what such a template matches is empty or ends in a blank, whatever its
words are.

The searched part of an utterance is trimmed, and can end in a blank only where marks
were taken off behind one.  So these templates are found behind a last word of marks,
and there with no word present, and nowhere else: an utterance that is made of their
words alone is not found.
-/
import CommandBar.Proofs.Brackets
import CommandBar.Proofs.Language
import CommandBar.Proofs.Searched

namespace CommandBar

namespace Phrase

open Pattern (ofSteps)

variable {t : Template}

/-- What is matched without a required word is empty or ends in the gap of the last word. -/
theorem Template.fits_optional : ∀ {t : Template}, ¬ t.HasRequired → ∀ {said : List Char},
    (ofSteps (t.steps false)).Fits said → ∀ c ∈ said.getLast?, Text.isBlank c = true
  | .done, _, said, hfits => by
      obtain rfl : said = [] := hfits
      simp
  | .required word rest, hoptional, _, _ => absurd trivial hoptional
  | .optional choices rest, hoptional, said, hfits => by
      rcases (optional_fits_iff _ said).mp hfits with habsent | hpresent
      · exact Template.fits_optional (t := rest) hoptional habsent
      · obtain ⟨front, back, rfl, hgroup, hrest⟩ :=
          (Pattern.ofSteps_append_fits _ _ said).mp hpresent
        obtain ⟨word, gap, rfl, -, hgap⟩ := (Pattern.ofSteps_append_fits _ _ front).mp hgroup
        obtain ⟨hne, hblank⟩ := (Pattern.ofSteps_singleton_fits .blanks gap).mp hgap
        refine Text.forall_getLast?_append ?_ (Template.fits_optional (t := rest) hoptional hrest)
        rw [List.getLast?_append_of_ne_nil word hne]
        exact fun c hc => hblank c (List.mem_of_mem_getLast? hc)

/-- All words can be absent: where the continuation has a result for anything that was taken, there
is one. -/
theorem Template.run_optional {β : Type} : ∀ {t : Template}, ¬ t.HasRequired →
    ∀ {cs : List Char} {taken : Captures} {next : List Char → Captures → Option β},
      (∀ taken, (next cs taken).isSome = true) →
        ((ofSteps (t.steps false)).run cs taken next).isSome = true
  | .done, _, _, _, _, hnext => hnext _
  | .required word rest, hoptional, _, _, _, _ => absurd trivial hoptional
  | .optional choices rest, hoptional, cs, taken, next, hnext => by
      rw [Template.steps, ofSteps, Pattern.run, Pattern.run]
      split
      · next result hpresent => rfl
      · exact Template.run_optional (t := rest) hoptional hnext

/-- **Without a required word a search looks at the end only.** -/
theorem Template.search?_optional (hoptional : ¬ t.HasRequired) (utterance : String) :
    t.search? utterance ≠ none ↔ ∀ c ∈ (searched utterance).getLast?, Text.isBlank c = true := by
  rw [search?_ne_none_iff]
  constructor
  · intro hfound
    obtain ⟨taken, hsearch⟩ := Option.isSome_iff_exists.mp hfound
    obtain ⟨before, said, after, hsearched, hbefore, hfits, hafter⟩ :=
      Pattern.search?_sound hsearch
    have hends : ∀ c ∈ after.getLast?, Text.isBlank c = true := by
      rcases hafter with rfl | rfl
      · simp
      · exact fun c hc => Option.some.inj hc ▸ rfl
    rw [hsearched]
    exact Text.forall_getLast?_append hbefore
      (Text.forall_getLast?_append (fits_optional hoptional hfits) hends)
  · intro hends
    -- the phrase with no word stands at the end
    have hrun : (t.pattern.run [] [] atEnd).isSome = true :=
      run_optional hoptional fun taken => rfl
    rw [Pattern.search?, List.findSome?_isSome_iff]
    exact ⟨[], mem_starts.mpr ⟨searched utterance, by simp, hends⟩, hrun⟩

/-- **Optional words are not looked for.**  A template without a required word is found exactly in
the utterances whose last word is made of marks, whatever its words are; so it is not found in any
that ends in another character, also if that is made of its words. -/
theorem Template.search?_optional_iff {t : Template} (hoptional : ¬ t.HasRequired)
    (utterance : String) :
    (t.search? utterance ≠ none ↔
      ∃ front marks, Text.trimChars utterance.toList = front ++ marks ∧
        (∀ c ∈ front.getLast?, Text.isBlank c = true) ∧ ∀ c ∈ marks, isSentenceMark c = true) ∧
      ((∃ c ∈ utterance.toList.getLast?, Text.isBlank c = false ∧ isSentenceMark c = false) →
        t.search? utterance = none) := by
  have hfound := (search?_optional hoptional utterance).trans (searched_ends_iff utterance)
  refine ⟨hfound, ?_⟩
  rintro ⟨c, hc, hblank, hmark⟩
  by_contra hsome
  obtain ⟨front, marks, htrimmed, hfront, hmarks⟩ := hfound.mp hsome
  have hlast := Text.trimChars_getLast? hc hblank
  rw [htrimmed] at hlast
  -- the last character is neither a mark nor the blank in front of the marks
  have hends : ∀ d ∈ (front ++ marks).getLast?, Text.isBlank d = true ∨ isSentenceMark d = true :=
    Text.forall_getLast?_append (fun d hd => Or.inl (hfront d hd))
      fun d hd => Or.inr (hmarks d (List.mem_of_mem_getLast? hd))
  rcases hends c hlast with hc | hc <;> simp_all

/-- An example: two optional words, both said, are not found, and a mark that stands alone is. -/
theorem Template.search?_optional_iff_polite :
    ∃ t, Template.ofText "[please|] [now|]" = .ok t ∧ ¬ t.HasRequired ∧
      t.search? "please now" = none ∧ t.search? "later !" ≠ none := by
  refine ⟨.optional (.choice (.required (.letter 'p' (.letter 'l' (.letter 'e' (.letter 'a'
    (.letter 's' (.letter 'e' .done)))))) .done) .done) (.optional (.choice (.required (.letter 'n'
    (.letter 'o' (.letter 'w' .done))) .done) .done) .done), by cbv, id, ?_, ?_⟩
  · refine (Template.search?_optional_iff id "please now").2 ⟨'w', ?_⟩
    decide +kernel
  · refine (Template.search?_optional_iff id "later !").1.mpr
      ⟨"later ".toList, "!".toList, by decide +kernel, ?_, List.all_eq_true.mp rfl⟩
    exact fun c hc => Option.some.inj hc ▸ rfl

/-- An optional word is not found where it is all that is said. -/
theorem Template.search?_misses_optional :
    ∃ t, Template.ofText "[a|]" = .ok t ∧ Balanced "[a|]".toList ∧ ¬ t.HasRequired ∧
      t.search? "a" = none := by
  refine ⟨.optional (.choice (.required (.letter 'a' .done) .done) .done) .done, by cbv, ?_, id, ?_⟩
  · decide +kernel
  · decide +kernel

end Phrase

end CommandBar
