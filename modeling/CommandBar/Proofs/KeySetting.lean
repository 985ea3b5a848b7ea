/-
What a key setting changes.

`Catalog.unkeyed` is the catalog with every key setting struck out.  A blueprint without
its key setting has the same type, the same name and the same settings, so everything in
validation up to the search for warnings comes to the same under both catalogs, refusals
with their words included.  Only the last step looks at key settings.  It cannot fail as
long as the phrases compile, so whatever stops one of the two runs stops the other, and a
command that passes differs at most in the warning and in the feedback that repeats it.

`Misses` is what the warning is about, said of the command that comes out.
-/
import CommandBar.Proofs.Validation

namespace CommandBar

open Json

/-! ### Striking out -/

/-- The blueprint without its key setting. -/
def Blueprint.unkeyed (b : Blueprint) : Blueprint :=
  { b with keySetting := none }

/-- The catalog with every key setting struck out. -/
def Catalog.unkeyed (catalog : Catalog) : Catalog :=
  catalog.map Blueprint.unkeyed

namespace Catalog

variable {catalog : Catalog}

theorem find?_unkeyed (type : String) :
    catalog.unkeyed.find? type = (catalog.find? type).map Blueprint.unkeyed := by
  rw [find?, unkeyed, List.find?_map]
  rfl

theorem ofType?_unkeyed (type : Option String) :
    catalog.unkeyed.ofType? type = (catalog.ofType? type).map Blueprint.unkeyed := by
  cases type with
  | none => rfl
  | some type => exact find?_unkeyed type

theorem displayName_unkeyed (type : String) :
    catalog.unkeyed.displayName type = catalog.displayName type := by
  rw [displayName, displayName, find?_unkeyed]
  cases catalog.find? type with
  | none => rfl
  | some b => rfl

end Catalog

/-! ### The steps that do not look at key settings -/

theorem Setting.convert_unkeyed (b : Blueprint) (name : String) (info : SettingInfo)
    (value : Value) : convert b.unkeyed name info value = convert b name info value := rfl

theorem Setting.check_unkeyed (b : Blueprint) (patch : Fields Value) :
    check b.unkeyed patch = check b patch := by
  induction patch with
  | nil => rfl
  | cons entry rest ih =>
      obtain ⟨name, value⟩ := entry
      have hsettings : b.unkeyed.settings = b.settings := rfl
      rw [check, check, hsettings]
      split
      · rfl
      · rw [convert_unkeyed, ih]

/-- A type is known under either catalog or under neither. -/
theorem Answer.widgetType_unkeyed (answer : Answer) (catalog : Catalog) :
    answer.widgetType catalog.unkeyed = answer.widgetType catalog := by
  unfold widgetType
  cases answer.text "widgetType" with
  | error fault => rfl
  | ok read =>
      cases read with
      | none => rfl
      | some type =>
          simp only [bind, Except.bind, Catalog.find?_unkeyed]
          cases catalog.find? type with
          | none => rfl
          | some b => rfl

namespace Validation

variable {answer : Answer} {utterance : String} {widgets : List Widget} {vocabulary : Vocabulary}
  {catalog : Catalog} {c : Command}

theorem readRequest_unkeyed :
    readRequest answer vocabulary catalog.unkeyed = readRequest answer vocabulary catalog := by
  rw [readRequest, readRequest, Answer.widgetType_unkeyed]

theorem located_unkeyed :
    located answer widgets vocabulary catalog.unkeyed =
      located answer widgets vocabulary catalog := by
  rw [located, located, readRequest_unkeyed]

theorem checkSettings_unkeyed : checkSettings c catalog.unkeyed = checkSettings c catalog := by
  unfold checkSettings
  rw [Catalog.ofType?_unkeyed]
  cases c.settings with
  | none => rfl
  | some patch =>
      cases catalog.ofType? c.widgetType with
      | none => rfl
      | some b => simp only [Option.map_some, Setting.check_unkeyed]

theorem finish_unkeyed (warnings : List String) :
    finish c warnings catalog.unkeyed = finish c warnings catalog := by
  have hname : typeName c catalog.unkeyed = typeName c catalog := by
    simp only [typeName, Catalog.displayName_unkeyed]
  have hdefault : defaultFeedback c catalog.unkeyed = defaultFeedback c catalog := by
    simp only [defaultFeedback, hname]
  simp only [finish, hdefault]

/-! ### The step that does -/

theorem keyWarnings_unkeyed : keyWarnings c utterance catalog.unkeyed = .ok [] := by
  have hnone : missingKey? c catalog.unkeyed = none := by
    rw [Option.eq_none_iff_forall_ne_some]
    rintro ⟨b, key⟩ hmissing
    obtain ⟨-, htype, hkey, -⟩ := missingKey?_eq_some_iff.mp hmissing
    rw [Catalog.ofType?_unkeyed] at htype
    obtain ⟨keyed, -, rfl⟩ := Option.map_eq_some_iff.mp htype
    exact absurd hkey (by simp [Blueprint.unkeyed])
  rw [keyWarnings, hnone]

/-- The command is one that sets settings, and the settings of its type have a key setting that it
leaves out or empty, although a phrase that implies it is found in the utterance. -/
structure Misses (catalog : Catalog) (utterance : String) (c : Command) (b : Blueprint) : Prop where
  action : c.action = .addWidget ∨ c.action = .openOrFocusWidget ∨ c.action = .updateWidgetSettings
  type : catalog.ofType? c.widgetType = some b
  key : ∃ key, b.keySetting = some key ∧ (Value.member c.patch key.name).isTruthy = false ∧
    ∃ phrase ∈ key.intentPhrases, ∃ template, Phrase.Template.ofText phrase = .ok template ∧
      template.search? utterance ≠ none

/-- Over a catalog whose phrases compile there is one warning if the command misses its key
setting, and none if it does not. -/
theorem keyWarnings_of_compiles (hcatalog : catalog.Compiles) (c : Command) (utterance : String) :
    (∃ b, Misses catalog utterance c b ∧ keyWarnings c utterance catalog = .ok [keyWarning b]) ∨
      (∀ b, ¬ Misses catalog utterance c b) ∧ keyWarnings c utterance catalog = .ok [] := by
  unfold keyWarnings
  cases hmissing : missingKey? c catalog with
  | none =>
      refine Or.inr ⟨?_, rfl⟩
      rintro b ⟨haction, htype, key, hkey, hblank, -⟩
      have hsets : c.action.setsSettings = true := by
        rcases haction with h | h | h <;> rw [h] <;> rfl
      rw [missingKey?_eq_some_iff.mpr ⟨hsets, htype, hkey, hblank⟩] at hmissing
      exact absurd hmissing (by simp)
  | some found =>
      obtain ⟨b, key⟩ := found
      obtain ⟨hsets, htype, hkey, hblank⟩ := missingKey?_eq_some_iff.mp hmissing
      have hreads := hcatalog b (Catalog.ofType?_eq_some htype).2 key hkey
      obtain ⟨templates, htemplates⟩ := mapM_ok_of_forall hreads
      have hread : ∀ t, t ∈ templates ↔ ∃ phrase ∈ key.intentPhrases,
          Phrase.Template.ofText phrase = .ok t := fun t => mem_of_mapM_ok htemplates
      simp only [htemplates]
      by_cases hfound : (templates.any fun t => (t.search? utterance).isSome) = true
      · refine Or.inl ⟨b, ⟨?_, htype, key, hkey, hblank, ?_⟩, ?_⟩
        · cases haction : c.action <;> simp_all [Action.setsSettings]
        · obtain ⟨t, ht, hmatch⟩ := List.any_eq_true.mp hfound
          obtain ⟨phrase, hphrase, hphraseReads⟩ := (hread t).mp ht
          exact ⟨phrase, hphrase, t, hphraseReads, Option.isSome_iff_ne_none.mp hmatch⟩
        · simp [bind, Except.bind, hfound]
      · refine Or.inr ⟨?_, by simp [bind, Except.bind, hfound]⟩
        rintro b' ⟨-, htype', key', hkey', -, phrase, hphrase, t, ht, hmatch⟩
        obtain rfl : b = b' := by simpa [htype] using htype'
        obtain rfl : key = key' := by simpa [hkey] using hkey'
        refine hfound (List.any_eq_true.mpr ⟨t, (hread t).mpr ⟨phrase, hphrase, ht⟩, ?_⟩)
        exact Option.isSome_iff_ne_none.mpr hmatch

/-- Finishing leaves what a key setting is looked for in. -/
theorem misses_finish_iff {warnings : List String} {b : Blueprint} :
    Misses catalog utterance (finish c warnings catalog) b ↔ Misses catalog utterance c b :=
  ⟨fun ⟨haction, htype, hkey⟩ => ⟨haction, htype, hkey⟩,
    fun ⟨haction, htype, hkey⟩ => ⟨haction, htype, hkey⟩⟩

/-- A warning is said behind the feedback, and changes nothing else. -/
theorem finish_warning (c : Command) (warning : String) (catalog : Catalog) :
    finish c [warning] catalog =
      { finish c [] catalog with
        feedback := (finish c [] catalog).feedback ++ " " ++ warning
        warnings := [warning] } := rfl

/-! ### The whole -/

/-- Without key settings validation locates, checks and finishes. -/
theorem validate_unkeyed_eq :
    validate answer utterance widgets vocabulary catalog.unkeyed =
      located answer widgets vocabulary catalog >>= fun c => checkSettings c catalog >>= fun c' =>
        .ok (finish c' [] catalog) := by
  rw [validate_eq, located_unkeyed]
  simp only [checkSettings_unkeyed, keyWarnings_unkeyed, finish_unkeyed]
  rfl

/-- **Key settings change nothing but the warning.**  Over a catalog whose phrases compile,
validation stops with a fault exactly if it does so without the key settings.  Otherwise both come
to the same command, unless it misses its key setting; then, and only then, there is one warning,
and the feedback ends with it. -/
theorem validate_unkeyed (answer : Answer) (utterance : String) (widgets : List Widget)
    (vocabulary : Vocabulary) (hcatalog : catalog.Compiles) :
    (∀ fault, validate answer utterance widgets vocabulary catalog = .error fault ↔
        validate answer utterance widgets vocabulary catalog.unkeyed = .error fault) ∧
      ∀ plain, validate answer utterance widgets vocabulary catalog.unkeyed = .ok plain →
        plain.warnings = [] ∧
          ∃ c, validate answer utterance widgets vocabulary catalog = .ok c ∧
            ((∃ b, Misses catalog utterance c b ∧
                c = { plain with
                  feedback := plain.feedback ++ " " ++ keyWarning b
                  warnings := [keyWarning b] }) ∨
              (∀ b, ¬ Misses catalog utterance c b) ∧ c = plain) := by
  rw [validate_eq, validate_unkeyed_eq]
  cases located answer widgets vocabulary catalog with
  | error fault => simp [bind, Except.bind]
  | ok found =>
      cases hcheck : checkSettings found catalog with
      | error fault => simp [bind, Except.bind, hcheck]
      | ok checked =>
          simp only [bind, Except.bind, hcheck]
          rcases keyWarnings_of_compiles hcatalog checked utterance with
            ⟨b, hmisses, hwarnings⟩ | ⟨hnone, hwarnings⟩
          · rw [hwarnings]
            refine ⟨by simp, fun plain hplain => ?_⟩
            obtain rfl := Except.ok.inj hplain
            exact ⟨rfl, _, rfl, Or.inl ⟨b, misses_finish_iff.mpr hmisses, finish_warning _ _ _⟩⟩
          · rw [hwarnings]
            refine ⟨by simp, fun plain hplain => ?_⟩
            obtain rfl := Except.ok.inj hplain
            exact ⟨rfl, _, rfl, Or.inr ⟨fun b => mt misses_finish_iff.mp (hnone b), rfl⟩⟩

/-- An answer with the name of the widget and nothing to search for. -/
def bareAnswer : Answer :=
  [("action", .str "openOrFocusWidget"), ("widgetType", .str "youtube")]

/-- What was to be searched has been lost on the way, and the user is told so. -/
theorem validate_unkeyed_youtube :
    Catalog.standard.Compiles ∧ ∃ plain b,
      validate bareAnswer "Search YouTube for jazz!" [] .standard Catalog.standard.unkeyed =
          .ok plain ∧
        plain.feedback = "Opening YouTube..." ∧
        keyWarning b = "(No search term came through, so YouTube opens without searching. " ++
          "Try \"search YouTube for ...\".)" ∧
        validate bareAnswer "Search YouTube for jazz!" [] .standard .standard =
          .ok { plain with
            feedback := plain.feedback ++ " " ++ keyWarning b
            warnings := [keyWarning b] } := by
  have hplain : validate bareAnswer "Search YouTube for jazz!" [] .standard
      Catalog.standard.unkeyed = .ok
        { action := .openOrFocusWidget, widgetType := some "youtube"
          feedback := "Opening YouTube..." } := by
    decide +kernel
  have hwarned : (validate bareAnswer "Search YouTube for jazz!" [] .standard .standard).map
      (·.warnings.length) = .ok 1 := by
    decide +kernel
  have htext : (Catalog.standard.ofType? (some "youtube")).map keyWarning =
      some ("(No search term came through, so YouTube opens without searching. " ++
        "Try \"search YouTube for ...\".)") := by
    decide +kernel
  obtain ⟨-, c, hc, ⟨b, hmisses, rfl⟩ | ⟨-, rfl⟩⟩ :=
    (validate_unkeyed bareAnswer "Search YouTube for jazz!" [] .standard
      Catalog.standard_compiles).2 _ hplain
  · have hb : Catalog.standard.ofType? (some "youtube") = some b := hmisses.type
    rw [hb] at htext
    exact ⟨Catalog.standard_compiles, _, b, hplain, rfl, Option.some.inj htext, hc⟩
  · rw [hc] at hwarned
    exact absurd (Except.ok.inj hwarned) (by simp)

end Validation

end CommandBar
