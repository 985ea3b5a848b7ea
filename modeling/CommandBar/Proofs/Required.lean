/-
Which required fields are required.

The entry of an action lists the fields that its answers have to give, and the prompt
tells the oracle so.  Validation does not read the list: it comes to the same whatever
is on it.  What it does ask for is a widget type, of the answers that add or open a
widget.  So the list of an action is enforced only if the action is one of these two and
nothing but the widget type has to be given, or no type could be given at all.

That nothing else is asked for takes one answer for each action that gives as little as
it can: the id of a widget, and a widget type where one is asked for, or else something
to change.  The widget is the only one, so it is found; and either nothing is changed or
the type of the widget is one that the catalog does not have, so no setting is checked.
-/
import Mathlib.Data.Fintype.EquivFin
import CommandBar.Proofs.Validation

namespace CommandBar

open Json

namespace ActionSpec

/-- The fields of an answer that are texts and do not name a widget or a setting. -/
def texts : List String :=
  ["widgetType", "title", "contextualHint", "feedbackToUser"]

/-- The fields any of which meets an entry of the required ones. -/
def alternatives (entry : String) : List String :=
  (entry.toList.splitOn '|').map String.ofList

/-- The entry with other fields required. -/
def requiring (f : ActionSpec → List String) (spec : ActionSpec) : ActionSpec :=
  { spec with required := f spec }

end ActionSpec

/-! ### No list of required fields is read -/

section Requiring

variable (f : ActionSpec → List String)

theorem Vocabulary.find?_requiring (vocabulary : Vocabulary) (action : Action) :
    find? (vocabulary.map (.requiring f)) action =
      (vocabulary.find? action).map (.requiring f) := by
  simp only [find?, List.find?_map]
  rfl

theorem Answer.action_requiring (answer : Answer) (vocabulary : Vocabulary) :
    answer.action (vocabulary.map (.requiring f)) =
      ActionSpec.requiring f <$> answer.action vocabulary := by
  unfold action
  simp only [Vocabulary.find?_requiring]
  split
  · rfl
  · cases vocabulary.find? _ with
    | none => rfl
    | some spec => rfl

namespace Validation

theorem readRequest_requiring (answer : Answer) (vocabulary : Vocabulary) (catalog : Catalog) :
    readRequest answer (vocabulary.map (.requiring f)) catalog =
      (fun r => { r with spec := r.spec.requiring f }) <$>
        readRequest answer vocabulary catalog := by
  simp only [readRequest, Answer.action_requiring, bind_map_left, map_bind]
  rfl

/-- **Validation comes to the same whatever fields are required.** -/
theorem validate_requiring (answer : Answer) (utterance : String) (widgets : List Widget)
    (vocabulary : Vocabulary) (catalog : Catalog) :
    validate answer utterance widgets (vocabulary.map (.requiring f)) catalog =
      validate answer utterance widgets vocabulary catalog := by
  -- behind the reading only the action and the mark count, which stay as they are
  simp only [validate, readRequest_requiring, bind_map_left]
  rfl

end Validation

end Requiring

/-! ### Fields that are given -/

namespace Answer

variable {answer : Answer} {field : String}

/-- The field holds a text that is not blank. -/
def Gives (answer : Answer) (field : String) : Prop :=
  ∃ s, Value.member answer field = .str s ∧ Text.trim s ≠ ""

/-- None of the alternatives of the entry is given. -/
def Lacks (answer : Answer) (entry : String) : Prop :=
  ∀ field ∈ ActionSpec.alternatives entry, ¬ answer.Gives field

/-- What is read from a field has been given there. -/
theorem text_gives {s : String} (h : answer.text field = .ok (some s)) : answer.Gives field := by
  unfold text at h
  split at h
  · simp at h
  · next given hgiven =>
      refine ⟨given, hgiven, fun hblank => ?_⟩
      simp [hblank] at h
  · exact absurd h (Refusal.raise_ne_ok _ _)

theorem not_gives_of_null (h : Value.member answer field = .null) : ¬ answer.Gives field := by
  rintro ⟨s, hs, -⟩
  simp [h] at hs

/-- A type that is read has been given, and is one of the catalog that trimming keeps. -/
theorem widgetType_gives {catalog : Catalog} {type : String}
    (h : answer.widgetType catalog = .ok (some type)) :
    answer.Gives "widgetType" ∧ ∃ b ∈ catalog, Text.Named b.type := by
  obtain ⟨b, hb⟩ := widgetType_ok h
  obtain ⟨hmem, rfl⟩ := Catalog.find?_mem hb
  obtain ⟨read, hread, h⟩ := bind_eq_ok_iff.mp h
  cases read with
  | none => simp at h
  | some s =>
      refine ⟨text_gives hread, b, hmem, ?_⟩
      simp only at h
      split at h
      · simp only [Except.ok.injEq, Option.some.injEq] at h
        exact h ▸ text_named hread
      · exact absurd h (Refusal.raise_ne_ok _ _)

end Answer

theorem Catalog.exists_unknown (catalog : Catalog) : ∃ type, catalog.find? type = none := by
  obtain ⟨type, htype⟩ := Infinite.exists_notMem_finset catalog.types.toFinset
  refine ⟨type, List.find?_eq_none.mpr fun b hb => ?_⟩
  have hne : b.type ≠ type := fun hsame =>
    htype (List.mem_toFinset.mpr (hsame ▸ List.mem_map_of_mem hb))
  simpa using hne

namespace Validation

variable {answer : Answer} {utterance : String} {widgets : List Widget} {vocabulary : Vocabulary}
  {catalog : Catalog} {spec : ActionSpec} {c : Command}

/-! ### What is asked for -/

/-- Without a type nothing is added and nothing opened. -/
theorem validate_untyped (hread : answer.action vocabulary = .ok spec)
    (haction : spec.action = .addWidget ∨ spec.action = .openOrFocusWidget)
    (huntyped : ∀ type, answer.widgetType catalog ≠ .ok (some type)) :
    ∃ e, validate answer utterance widgets vocabulary catalog = .error (.command e) := by
  unfold validate
  cases hrequest : readRequest answer vocabulary catalog with
  | error fault =>
      rcases readRequest_stops answer vocabulary catalog fault hrequest with hstop | ⟨r, -, rfl⟩
      · simp [hread] at hstop
      · exact ⟨r.error, rfl⟩
  | ok r =>
      have hreads := readRequest_reads hrequest
      obtain rfl : spec = r.spec := Except.ok.inj (hread.symm.trans hreads.action)
      have hnone : r.widgetType = none :=
        Option.eq_none_iff_forall_ne_some.mpr fun type htype =>
          huntyped type (hreads.widgetType.trans (congrArg _ htype))
      have hlocate : locate r widgets = (Refusal.noType r.spec.action).raise := by
        unfold locate
        rcases haction with hadd | hopen
        · simp only [hadd, hnone]
        · simp only [hopen, hnone]
      refine ⟨(Refusal.noType r.spec.action).error, ?_⟩
      simp only [Bind.bind, Except.bind, hlocate, Refusal.raise]

/-- A command whose settings are not checked is not refused once it is located. -/
theorem validate_passes (hlocated : located answer widgets vocabulary catalog = .ok c)
    (hsettings : ∀ b, catalog.ofType? c.widgetType = some b → c.settings = none)
    (e : CommandError) :
    validate answer utterance widgets vocabulary catalog ≠ .error (.command e) := by
  intro h
  rw [validate_eq, hlocated] at h
  rcases bind_eq_error_iff.mp h with hnone | ⟨found, hfound, h⟩
  · simp at hnone
  obtain rfl := Except.ok.inj hfound
  rcases bind_eq_error_iff.mp h with hcheck | ⟨checked, -, h⟩
  · obtain ⟨b, hb, -, hstop⟩ := checkSettings_error_iff.mp hcheck
    simp [Command.patch, hsettings b hb, Setting.check] at hstop
  rcases bind_eq_error_iff.mp h with hwarn | ⟨warnings, -, h⟩
  · obtain ⟨word, hword⟩ := (keyWarnings_error hwarn).1
    simp at hword
  · simp at h

/-! ### An answer that gives as little as it can -/

/-- An answer with the id of a widget and one field more. -/
def sparse (action : Action) (field : String) (value : Value) : Answer :=
  [("action", .str action.name), ("targetWidgetId", .str "w"), (field, value)]

/-- The widget of that id. -/
def onlyWidget (type : String) : List Widget :=
  [{ id := "w", type, title := "" }]

theorem sparse_action {field : String} {value : Value}
    (hspec : vocabulary.find? spec.action = some spec) :
    (sparse spec.action field value).action vocabulary = .ok spec := by
  simp [Answer.action, sparse, Value.member, Fields.get?, Action.ofName?_name, hspec]

/-- It gives none of the texts but the one that is put in. -/
theorem sparse_lacks {action : Action} {field entry : String} {value : Value}
    (htexts : ∀ other ∈ ActionSpec.alternatives entry, other ∈ ActionSpec.texts)
    (hfield : field ∉ ActionSpec.alternatives entry) :
    (sparse action field value).Lacks entry := by
  have hnot : "action" ∉ ActionSpec.texts ∧ "targetWidgetId" ∉ ActionSpec.texts := by decide
  intro other hother
  have haction : "action" ≠ other := fun hsame => hnot.1 (hsame ▸ htexts other hother)
  have hid : "targetWidgetId" ≠ other := fun hsame => hnot.2 (hsame ▸ htexts other hother)
  have hne : field ≠ other := fun hsame => hfield (hsame ▸ hother)
  refine Answer.not_gives_of_null ?_
  simp [sparse, Value.member, Fields.get?, haction, hid, hne]

theorem readRequest_typed {b : Blueprint} (hspec : vocabulary.find? spec.action = some spec)
    (hnamed : Text.Named b.type) (hb : catalog.find? b.type = some b) :
    readRequest (sparse spec.action "widgetType" (.str b.type)) vocabulary catalog =
      .ok { spec, widgetType := some b.type, settings := [], target := some ⟨some "w", none⟩,
            feedback := none, title := none, contextualHint := none } := by
  have htext : (sparse spec.action "widgetType" (.str b.type)).text "widgetType" =
      .ok (some b.type) := Answer.text_of_named hnamed rfl
  have htype : (sparse spec.action "widgetType" (.str b.type)).widgetType catalog =
      .ok (some b.type) := by
    simp only [Answer.widgetType, htext, Bind.bind, Except.bind, hb]
  simp only [readRequest, sparse_action hspec, htype]
  rfl

theorem readRequest_changing (hspec : vocabulary.find? spec.action = some spec) :
    readRequest (sparse spec.action "initialSettings" (.obj [("x", .null)])) vocabulary catalog =
      .ok { spec, widgetType := none, settings := [("x", .null)], target := some ⟨some "w", none⟩,
            feedback := none, title := none, contextualHint := none } := by
  simp only [readRequest, sparse_action hspec]
  rfl

/-- With a type, and a widget of the type, every action to add or open one is located. -/
theorem located_typed {b : Blueprint} (hspec : vocabulary.find? spec.action = some spec)
    (haction : spec.action = .addWidget ∨ spec.action = .openOrFocusWidget)
    (hnamed : Text.Named b.type) (hb : catalog.find? b.type = some b) :
    ∃ c, located (sparse spec.action "widgetType" (.str b.type)) (onlyWidget b.type) vocabulary
      catalog = .ok c ∧ c.settings = none := by
  rw [located, readRequest_typed hspec hnamed hb]
  simp only [Bind.bind, Except.bind, locate]
  rcases haction with hadd | hopen
  · simp only [hadd, targeted]
    split
    · exact ⟨_, rfl, rfl⟩
    · exact ⟨_, rfl, rfl⟩
  · simp only [hopen, openOrFocus, onlyWidget, List.filter_cons, beq_self_eq_true, if_true]
    exact ⟨_, rfl, rfl⟩

/-- With a widget of unknown type and something to change, every other action is located. -/
theorem located_changing {type : String} (hspec : vocabulary.find? spec.action = some spec)
    (haction : ¬ (spec.action = .addWidget ∨ spec.action = .openOrFocusWidget))
    (hunknown : catalog.find? type = none) :
    ∃ c, located (sparse spec.action "initialSettings" (.obj [("x", .null)])) (onlyWidget type)
      vocabulary catalog = .ok c ∧ catalog.ofType? c.widgetType = none := by
  rw [located, readRequest_changing hspec]
  simp only [Bind.bind, Except.bind, locate]
  split
  · next hadd _ => exact absurd (Or.inl hadd) haction
  · next hopen _ => exact absurd (Or.inr hopen) haction
  · next hopen _ => exact absurd (Or.inr hopen) haction
  · split
    · simp only [targeted, List.cons_ne_self, and_false, if_false]
      exact ⟨_, rfl, hunknown⟩
    · exact ⟨_, rfl, rfl⟩

/-! ### The whole -/

/-- No answer that lacks a required field of its action passes. -/
def Enforces (vocabulary : Vocabulary) (catalog : Catalog) (spec : ActionSpec) : Prop :=
  ∀ answer utterance widgets, answer.action vocabulary = .ok spec →
    (∃ entry ∈ spec.required, answer.Lacks entry) →
      ∃ e, validate answer utterance widgets vocabulary catalog = .error (.command e)

/-- **The required fields of an action are enforced exactly if it adds or opens a widget and the
type of the widget meets each of them**, or can never be given. -/
theorem enforces_iff (hspec : vocabulary.find? spec.action = some spec)
    (htexts : ∀ entry ∈ spec.required, ∀ field ∈ ActionSpec.alternatives entry,
      field ∈ ActionSpec.texts) :
    Enforces vocabulary catalog spec ↔
      ∀ entry ∈ spec.required,
        (spec.action = .addWidget ∨ spec.action = .openOrFocusWidget) ∧
          ("widgetType" ∈ ActionSpec.alternatives entry ∨
            ∀ b ∈ catalog, ¬ Text.Named b.type) := by
  constructor
  · intro henforces entry hentry
    have haction : spec.action = .addWidget ∨ spec.action = .openOrFocusWidget := by
      by_contra hother
      have hsettings : "initialSettings" ∉ ActionSpec.texts := by decide
      obtain ⟨type, hunknown⟩ := catalog.exists_unknown
      obtain ⟨c, hlocated, htype⟩ := located_changing hspec hother hunknown
      have hlacks : (sparse spec.action "initialSettings" (.obj [("x", .null)])).Lacks entry :=
        sparse_lacks (htexts entry hentry) fun h => hsettings (htexts entry hentry _ h)
      obtain ⟨e, he⟩ :=
        henforces _ "" (onlyWidget type) (sparse_action hspec) ⟨entry, hentry, hlacks⟩
      exact validate_passes hlocated (fun b hb => by simp [htype] at hb) e he
    refine ⟨haction, or_iff_not_imp_left.mpr fun hmissing b hmem hnamed => ?_⟩
    obtain ⟨found, hfound⟩ := Catalog.exists_find? hmem
    have hsame := (Catalog.find?_mem hfound).2
    rw [← hsame] at hfound hnamed
    obtain ⟨c, hlocated, hsettings⟩ := located_typed hspec haction hnamed hfound
    have hlacks : (sparse spec.action "widgetType" (.str found.type)).Lacks entry :=
      sparse_lacks (htexts entry hentry) hmissing
    obtain ⟨e, he⟩ :=
      henforces _ "" (onlyWidget found.type) (sparse_action hspec) ⟨entry, hentry, hlacks⟩
    exact validate_passes hlocated (fun _ _ => hsettings) e he
  · rintro h answer utterance widgets hread ⟨entry, hentry, hlacks⟩
    obtain ⟨haction, htype⟩ := h entry hentry
    refine validate_untyped hread haction fun type hgiven => ?_
    obtain ⟨hgives, b, hb, hnamed⟩ := Answer.widgetType_gives hgiven
    rcases htype with hmember | hnone
    · exact hlacks "widgetType" hmember hgives
    · exact hnone b hb hnamed

/-- Doing nothing, where it takes a word to the user. -/
def explained : ActionSpec :=
  { action := .noop, handler := "noop", summary := "Change nothing and say why."
    required := ["feedbackToUser"] }

theorem enforces_iff_explained :
    Vocabulary.find? [explained] explained.action = some explained ∧
      (∀ entry ∈ explained.required, ∀ field ∈ ActionSpec.alternatives entry,
        field ∈ ActionSpec.texts) ∧
      ¬ Enforces [explained] .standard explained := by
  have hspec : Vocabulary.find? [explained] explained.action = some explained := rfl
  have htexts : ∀ entry ∈ explained.required, ∀ field ∈ ActionSpec.alternatives entry,
      field ∈ ActionSpec.texts := by decide
  refine ⟨hspec, htexts, fun henforces => ?_⟩
  have haction := ((enforces_iff hspec htexts).mp henforces "feedbackToUser" (by decide)).1
  exact absurd haction (by decide)

/-- Nothing is done without a word of the oracle to the user, although it takes one. -/
theorem validate_unexplained :
    Answer.action [("action", .str "noop")] [explained] = .ok explained ∧
      (∃ entry ∈ explained.required, Answer.Lacks [("action", .str "noop")] entry) ∧
      validate [("action", .str "noop")] "hello" [] [explained] .standard =
        .ok { action := .noop
              feedback := "I'm not sure what to change. Could you rephrase that?" } := by
  have halternatives : ActionSpec.alternatives "feedbackToUser" = ["feedbackToUser"] := by decide
  refine ⟨by decide, ⟨"feedbackToUser", by decide, ?_⟩, by decide +kernel⟩
  intro field hfield
  obtain rfl : field = "feedbackToUser" := by simpa [halternatives] using hfield
  exact Answer.not_gives_of_null rfl

end Validation

end CommandBar
