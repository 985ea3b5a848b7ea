/-
The language of a template, and that its pattern matches it.

A template says a row of words: every required word, and of the optional ones those
that are present.  A present optional word is one of its alternatives, and any other
word is said part by part.  Between two words of the row there is a gap, and none
around them.

The pattern places the gaps differently.  In front of the first required word a gap
belongs to the optional word before it, and behind that word to the word after it;
so the steps are compared with words that are led by gaps once a required word has
come, and with words that have gaps between them before.  The two come together
because some required word is still to come: no optional word is the last of its row,
so the gap that it brings along is one between two words.
-/
import CommandBar.Proofs.Joining

namespace CommandBar

namespace Phrase

/-! ### Words and gaps -/

/-- One or more blanks. -/
def IsGap (cs : List Char) : Prop :=
  cs ≠ [] ∧ ∀ c ∈ cs, Text.isBlank c = true

/-- The words in order, each behind a gap. -/
def Led : List (List Char) → List Char → Prop
  | [], cs => cs = []
  | word :: words, cs => ∃ gap rest, cs = gap ++ (word ++ rest) ∧ IsGap gap ∧ Led words rest

/-- The words in order, with gaps between them. -/
def Spaced : List (List Char) → List Char → Prop
  | [], cs => cs = []
  | word :: words, cs => ∃ rest, cs = word ++ rest ∧ Led words rest

/-- The words in order, each behind a gap if something stands in front of them. -/
def Laid : (started : Bool) → List (List Char) → List Char → Prop
  | true, words, cs => Led words cs
  | false, words, cs => Spaced words cs

theorem led_iff_spaced {words : List (List Char)} (hne : words ≠ []) (cs : List Char) :
    Led words cs ↔ ∃ gap rest, cs = gap ++ rest ∧ IsGap gap ∧ Spaced words rest := by
  cases words with
  | nil => exact absurd rfl hne
  | cons word words =>
      constructor
      · rintro ⟨gap, rest, rfl, hgap, hrest⟩
        exact ⟨gap, word ++ rest, rfl, hgap, rest, rfl, hrest⟩
      · rintro ⟨gap, back, rfl, hgap, rest, rfl, hrest⟩
        exact ⟨gap, rest, rfl, hgap, hrest⟩

/-! ### What is said -/

mutual

/-- The template says these words. -/
def Template.Speaks : Template → List (List Char) → Prop
  | .done, words => words = []
  | .required word rest, words =>
    ∃ first others, words = first :: others ∧ word.Speaks first ∧ rest.Speaks others
  | .optional choices rest, words =>
    rest.Speaks words ∨
      ∃ first others, words = first :: others ∧ choices.Speaks first ∧ rest.Speaks others

/-- The parts of a word say this text. -/
def Word.Speaks : Word → List Char → Prop
  | .done, cs => cs = []
  | .letter c rest, cs => ∃ d more, cs = d :: more ∧ Text.sameLetter c d = true ∧ rest.Speaks more
  | .field _ rest, cs =>
    ∃ held more, cs = held ++ more ∧ (held ≠ [] ∧ ∀ c ∈ held, c ≠ '\n') ∧ rest.Speaks more
  | .group choices rest, cs =>
    ∃ chosen more, cs = chosen ++ more ∧ choices.Speaks chosen ∧ rest.Speaks more

/-- One of the alternatives says this text. -/
def Choices.Speaks : Choices → List Char → Prop
  | .done, _ => False
  | .choice template rest, cs =>
    (∃ words, template.Speaks words ∧ Spaced words cs) ∨ rest.Speaks cs

end

/-- The text is one that the template says. -/
def Template.Says (t : Template) (cs : List Char) : Prop :=
  ∃ words, t.Speaks words ∧ Spaced words cs

/-! ### Regular templates -/

/-- Some word is required. -/
def Template.HasRequired : Template → Prop
  | .done => False
  | .required _ _ => True
  | .optional _ rest => rest.HasRequired

mutual

/-- Every optional word has an alternative that is not empty, and every alternative that is not
empty has a required word, at every depth. -/
def Template.Regular : Template → Prop
  | .done => True
  | .required word rest => word.Regular ∧ rest.Regular
  | .optional choices rest => choices ≠ .done ∧ choices.Regular ∧ rest.Regular

/-- So it is in every group of the word. -/
def Word.Regular : Word → Prop
  | .done => True
  | .letter _ rest => rest.Regular
  | .field _ rest => rest.Regular
  | .group choices rest => choices.Regular ∧ rest.Regular

/-- So it is in every alternative. -/
def Choices.Regular : Choices → Prop
  | .done => True
  | .choice template rest =>
    (template = .done ∨ template.HasRequired) ∧ template.Regular ∧ rest.Regular

end

mutual

/-- Every group has an alternative. -/
def Template.Full : Template → Prop
  | .done => True
  | .required word rest => word.Full ∧ rest.Full
  | .optional choices rest => choices.Full ∧ rest.Full

/-- So does every group in the word. -/
def Word.Full : Word → Prop
  | .done => True
  | .letter _ rest => rest.Full
  | .field _ rest => rest.Full
  | .group choices rest => choices ≠ .done ∧ choices.Full ∧ rest.Full

/-- So does every group in the alternatives. -/
def Choices.Full : Choices → Prop
  | .done => True
  | .choice template rest => template.Full ∧ rest.Full

end

/-! ### Steps and gaps -/

section Steps

open Pattern

variable {utters : List Char → Prop} {speaks : List (List Char) → Prop} {started : Bool}
  {word group rest : List Pattern}

/-- A required word is led by a gap if a required word came before, and leads the way for the
words behind it. -/
theorem required_fits (hword : ∀ text, (ofSteps word).Fits text ↔ utters text)
    (hrest : ∀ text, (ofSteps rest).Fits text ↔ ∃ words, speaks words ∧ Led words text)
    (text : List Char) :
    (ofSteps ((if started then .blanks :: word else word) ++ rest)).Fits text ↔
      ∃ words, (∃ first others, words = first :: others ∧ utters first ∧ speaks others) ∧
        Laid started words text := by
  rw [ofSteps_append_fits]
  cases started with
  | true =>
      constructor
      · rintro ⟨front, back, rfl, ⟨gap, first, rfl, hgap, hfirst⟩, hback⟩
        obtain ⟨others, hspeaks, hled⟩ := (hrest back).mp hback
        exact ⟨first :: others, ⟨first, others, rfl, (hword first).mp hfirst, hspeaks⟩,
          gap, back, by rw [List.append_assoc], hgap, hled⟩
      · rintro ⟨_, ⟨first, others, rfl, hutters, hspeaks⟩, gap, back, rfl, hgap, hled⟩
        exact ⟨gap ++ first, back, by rw [List.append_assoc],
          ⟨gap, first, rfl, hgap, (hword first).mpr hutters⟩,
          (hrest back).mpr ⟨others, hspeaks, hled⟩⟩
  | false =>
      constructor
      · rintro ⟨first, back, rfl, hfirst, hback⟩
        obtain ⟨others, hspeaks, hled⟩ := (hrest back).mp hback
        exact ⟨first :: others, ⟨first, others, rfl, (hword first).mp hfirst, hspeaks⟩,
          back, rfl, hled⟩
      · rintro ⟨_, ⟨first, others, rfl, hutters, hspeaks⟩, back, rfl, hled⟩
        exact ⟨first, back, rfl, (hword first).mpr hutters,
          (hrest back).mpr ⟨others, hspeaks, hled⟩⟩

/-- The step of an optional word takes it with its gap, or takes nothing. -/
theorem optional_fits_iff (present : List Pattern) (text : List Char) :
    (ofSteps (.either (ofSteps present) .empty :: rest)).Fits text ↔
      (ofSteps rest).Fits text ∨ (ofSteps (present ++ rest)).Fits text := by
  rw [ofSteps_append_fits]
  constructor
  · rintro ⟨front, back, rfl, hfront | hfront, hback⟩
    · exact Or.inr ⟨front, back, rfl, hfront, hback⟩
    · obtain rfl : front = [] := hfront
      exact Or.inl hback
  · rintro (hback | ⟨front, back, rfl, hfront, hback⟩)
    · exact ⟨[], text, rfl, Or.inr rfl, hback⟩
    · exact ⟨front, back, rfl, Or.inl hfront, hback⟩

/-- An optional word brings a gap along, in front of it if a required word came before and
behind it otherwise; in the second case there is a word behind the gap. -/
theorem optional_fits (hgroup : ∀ text, (ofSteps group).Fits text ↔ utters text)
    (hrest : ∀ text, (ofSteps rest).Fits text ↔ ∃ words, speaks words ∧ Laid started words text)
    (hmore : started = false → ∀ words, speaks words → words ≠ []) (text : List Char) :
    (ofSteps (.either (ofSteps (if started then .blanks :: group else group ++ [.blanks])) .empty ::
        rest)).Fits text ↔
      ∃ words, (speaks words ∨
          ∃ first others, words = first :: others ∧ utters first ∧ speaks others) ∧
        Laid started words text := by
  rw [optional_fits_iff, hrest]
  simp only [or_and_right, exists_or]
  refine or_congr Iff.rfl ?_
  cases started with
  | true =>
      exact @required_fits utters speaks true group rest hgroup hrest text
  | false =>
      show (ofSteps (group ++ [.blanks] ++ rest)).Fits text ↔ _
      rw [List.append_assoc, ofSteps_append_fits]
      constructor
      · rintro ⟨first, back, rfl, hfirst, gap, back', rfl, hgap, hback⟩
        obtain ⟨others, hspeaks, hspaced⟩ := (hrest back').mp hback
        refine ⟨first :: others, ⟨first, others, rfl, (hgroup first).mp hfirst, hspeaks⟩, ?_⟩
        exact ⟨gap ++ back', rfl,
          (led_iff_spaced (hmore rfl others hspeaks) _).mpr ⟨gap, back', rfl, hgap, hspaced⟩⟩
      · rintro ⟨_, ⟨first, others, rfl, hutters, hspeaks⟩, back, rfl, hled⟩
        obtain ⟨gap, back', rfl, hgap, hspaced⟩ :=
          (led_iff_spaced (hmore rfl others hspeaks) back).mp hled
        exact ⟨first, gap ++ back', rfl, (hgroup first).mpr hutters, gap, back', rfl, hgap,
          (hrest back').mpr ⟨others, hspeaks, hspaced⟩⟩

end Steps

/-! ### The steps of a template -/

/-- A template with a required word says at least one word. -/
theorem Template.Speaks.ne_nil : ∀ {t : Template} {words : List (List Char)},
    t.Speaks words → t.HasRequired → words ≠ []
  | .done, _, _, hrequired => absurd hrequired (by simp [HasRequired])
  | .required word rest, _, h, _ => by
      obtain ⟨first, others, rfl, -⟩ := h
      simp
  | .optional choices rest, _, h, hrequired => by
      rcases h with h | ⟨first, others, rfl, -⟩
      · exact ne_nil h hrequired
      · simp

theorem Choices.rows_ne_nil {choices : Choices} (h : choices ≠ .done) : choices.rows ≠ [] := by
  cases choices with
  | done => exact absurd rfl h
  | choice template rest => simp [rows]

open Pattern (ofSteps ofSteps_append_fits join_fits)

mutual

/-- **The steps of a regular template match what it says.** -/
theorem Template.fits_steps : ∀ (t : Template), t.Full → t.Regular →
    ∀ (started : Bool), (started = false → t.HasRequired) → ∀ text : List Char,
      (ofSteps (t.steps started)).Fits text ↔ ∃ words, t.Speaks words ∧ Laid started words text
  | .done, _, _, started, hrequired, text => by
      cases started with
      | true => simp [Template.steps, ofSteps, Pattern.Fits, Template.Speaks, Laid, Led]
      | false => exact absurd (hrequired rfl) (by simp [Template.HasRequired])
  | .required word rest, hfull, hregular, started, _, text =>
      required_fits (Word.fits_steps word hfull.1 hregular.1)
        (Template.fits_steps rest hfull.2 hregular.2 true (by simp)) text
  | .optional choices rest, hfull, hregular, started, hrequired, text => by
      have hgroup : ∀ text, (ofSteps (Pattern.join choices.rows)).Fits text ↔
          choices.Speaks text := fun text =>
        (join_fits (Choices.rows_ne_nil hregular.1) text).trans
          (Choices.fits_rows choices hfull.1 hregular.2.1 text)
      exact optional_fits hgroup
        (Template.fits_steps rest hfull.2 hregular.2.2 started hrequired)
        (fun hstarted words hspeaks => hspeaks.ne_nil (hrequired hstarted)) text

/-- The steps of a word match what its parts say. -/
theorem Word.fits_steps : ∀ (w : Word), w.Full → w.Regular → ∀ text : List Char,
    (ofSteps w.steps).Fits text ↔ w.Speaks text
  | .done, _, _, text => Iff.rfl
  | .letter c rest, hfull, hregular, text => by
      have hrest := Word.fits_steps rest hfull hregular
      constructor
      · rintro ⟨front, back, rfl, ⟨d, rfl, hsame⟩, hback⟩
        exact ⟨d, back, rfl, hsame, (hrest back).mp hback⟩
      · rintro ⟨d, back, rfl, hsame, hback⟩
        exact ⟨[d], back, rfl, ⟨d, rfl, hsame⟩, (hrest back).mpr hback⟩
  | .field name rest, hfull, hregular, text => by
      have hrest := Word.fits_steps rest hfull hregular
      constructor
      · rintro ⟨held, back, rfl, hheld, hback⟩
        exact ⟨held, back, rfl, hheld, (hrest back).mp hback⟩
      · rintro ⟨held, back, rfl, hheld, hback⟩
        exact ⟨held, back, rfl, hheld, (hrest back).mpr hback⟩
  | .group choices rest, hfull, hregular, text => by
      have hrest := Word.fits_steps rest hfull.2.2 hregular.2
      have hgroup : ∀ text, (ofSteps (Pattern.join choices.rows)).Fits text ↔
          choices.Speaks text := fun text =>
        (join_fits (Choices.rows_ne_nil hfull.1) text).trans
          (Choices.fits_rows choices hfull.2.1 hregular.1 text)
      rw [Word.steps, ofSteps_append_fits]
      simp only [hgroup, hrest]
      rfl

/-- The rows of a group match what its alternatives say. -/
theorem Choices.fits_rows : ∀ (c : Choices), c.Full → c.Regular → ∀ text : List Char,
    (∃ row ∈ c.rows, (ofSteps row).Fits text) ↔ c.Speaks text
  | .done, _, _, text => by simp [Choices.rows, Choices.Speaks]
  | .choice template rest, hfull, hregular, text => by
      have hrest := Choices.fits_rows rest hfull.2 hregular.2.2 text
      have htemplate : (ofSteps (template.steps false)).Fits text ↔
          ∃ words, template.Speaks words ∧ Spaced words text := by
        rcases hregular.1 with rfl | hrequired
        · simp [Template.steps, ofSteps, Pattern.Fits, Template.Speaks, Spaced]
        · exact Template.fits_steps template hfull.1 hregular.2.1 false (fun _ => hrequired) text
      rw [Choices.rows, Choices.Speaks, ← htemplate, ← hrest]
      simp

end

/-- **The pattern of a regular template matches exactly what the template says.** -/
theorem Template.pattern_fits {t : Template} (hfull : t.Full) (hregular : t.Regular)
    (hrequired : t.HasRequired) (text : List Char) : t.pattern.Fits text ↔ t.Says text :=
  t.fits_steps hfull hregular false (fun _ => hrequired) text

end Phrase

end CommandBar
