/-
The forms in which settings are sent.

Settings come as an object, as the text of an object, or one at a time beside either,
and nothing behind the reading of the fields sees which it was.  `Spells` says which
settings a value stands for, and it is all that is ever made of the value.  The rest
is that reading an answer looks at nothing but the fields it names, so an answer may
be changed in the fields for the settings as long as the same settings are read from
them, errors elsewhere included.
-/
import CommandBar.Proofs.Classification
import CommandBar.Proofs.Decoding

namespace CommandBar

open Json Validation

namespace Answer

variable {answer : Answer} {o : Fields Value} {v : Value}

/-! ### What the settings are -/

/-- The value stands for the settings. -/
inductive Spells : Value → Fields Value → Prop
  | null : Spells .null []
  | blank : Spells (.str "") []
  | obj (o : Fields Value) : Spells (.obj o) o
  | text {s : String} {o : Fields Value} (read : Json.read s = .ok (.obj o)) : Spells (.str s) o

theorem read_empty (v : Value) : Json.read "" ≠ .ok v := by
  intro h
  have hfails : (Json.read "").toBool = false := by decide +kernel
  rw [h] at hfails
  simp [Except.toBool] at hfails

theorem settingsObject_of_spells (h : Spells (Value.member answer "initialSettings") o) :
    answer.settingsObject = .ok o := by
  unfold settingsObject
  generalize Value.member answer "initialSettings" = v at h
  cases h with
  | null => rfl
  | blank => rfl
  | obj o => rfl
  | @text s o read =>
      have hne : s ≠ "" := by
        rintro rfl
        exact read_empty _ read
      simp only [if_neg hne, read]

/-- The settings are read exactly from what stands for them. -/
theorem settingsObject_eq_ok_iff :
    answer.settingsObject = .ok o ↔ Spells (Value.member answer "initialSettings") o := by
  refine ⟨fun h => ?_, settingsObject_of_spells⟩
  unfold settingsObject at h
  split at h
  · next hv =>
      simp only [Except.ok.injEq] at h
      rw [hv, ← h]
      exact .null
  · next members hv =>
      simp only [Except.ok.injEq] at h
      rw [hv, ← h]
      exact .obj members
  · next s hv =>
      rw [hv]
      split at h
      · next hempty =>
          simp only [Except.ok.injEq] at h
          rw [hempty, ← h]
          exact .blank
      · split at h
        · exact absurd h (Refusal.raise_ne_ok _ _)
        · next members hread =>
            simp only [Except.ok.injEq] at h
            exact h ▸ .text hread
        · exact absurd h (Refusal.raise_ne_ok _ _)
  · exact absurd h (Refusal.raise_ne_ok _ _)

/-! ### What an answer is read by -/

/-- The fields that settings are sent in. -/
def settingFields : List String := ["initialSettings", "settingName", "settingValue"]

/-- The two answers have the same settings, and are the same but for the fields of these. -/
structure SameBut (answer other : Answer) : Prop where
  settings : answer.settings = other.settings
  rest : ∀ field ∉ settingFields, Value.member answer field = Value.member other field

namespace SameBut

variable {other : Answer}

theorem text (h : SameBut answer other) {field : String} (hfield : field ∉ settingFields) :
    answer.text field = other.text field := by
  unfold Answer.text
  rw [h.rest field hfield]

theorem readRequest_eq (h : SameBut answer other) (vocabulary : Vocabulary) (catalog : Catalog) :
    readRequest answer vocabulary catalog = readRequest other vocabulary catalog := by
  have haction : answer.action vocabulary = other.action vocabulary := by
    unfold Answer.action
    rw [h.rest "action" (by decide)]
  have htype : answer.widgetType catalog = other.widgetType catalog := by
    unfold Answer.widgetType
    rw [h.text (by decide)]
  have htarget : answer.target = other.target := by
    unfold Answer.target
    rw [h.text (by decide : "targetWidgetId" ∉ settingFields),
      h.text (by decide : "targetWidgetTitle" ∉ settingFields)]
  unfold readRequest
  rw [haction, htype, h.settings, htarget, h.text (by decide : "feedbackToUser" ∉ settingFields),
    h.text (by decide : "title" ∉ settingFields),
    h.text (by decide : "contextualHint" ∉ settingFields)]

theorem validate_eq (h : SameBut answer other) (utterance : String) (widgets : List Widget)
    (vocabulary : Vocabulary) (catalog : Catalog) :
    validate answer utterance widgets vocabulary catalog =
      validate other utterance widgets vocabulary catalog := by
  unfold validate
  rw [h.readRequest_eq vocabulary catalog]

end SameBut

/-! ### The forms -/

/-- The answer with that value for the settings. -/
def sending (v : Value) (answer : Answer) : Answer :=
  Fields.set "initialSettings" v answer

/-- The answer without a single setting. -/
def withoutSetting (answer : Answer) : Answer :=
  answer.filter fun member => member.1 ≠ "settingName" ∧ member.1 ≠ "settingValue"

theorem member_sending (v : Value) (answer : Answer) (field : String) :
    Value.member (answer.sending v) field =
      if "initialSettings" = field then v else Value.member answer field :=
  Value.member_set _ _ _ _

theorem member_withoutSetting (answer : Answer) (field : String) :
    Value.member answer.withoutSetting field =
      if field ≠ "settingName" ∧ field ≠ "settingValue" then Value.member answer field
      else .null := by
  have h := Value.member_filter
    (fun name => decide (name ≠ "settingName" ∧ name ≠ "settingValue")) field answer
  simp only [decide_eq_true_eq] at h
  exact h

/-- Settings that are sent together may be sent in any form. -/
theorem sending_sameBut (hsent : Spells (Value.member answer "initialSettings") o)
    (hv : Spells v o) : SameBut (answer.sending v) answer := by
  have hmember : ∀ field, field ≠ "initialSettings" →
      Value.member (answer.sending v) field = Value.member answer field := by
    intro field hfield
    rw [member_sending, if_neg hfield.symm]
  have hobject : (answer.sending v).settingsObject = answer.settingsObject := by
    rw [settingsObject_of_spells hsent, settingsObject_of_spells (o := o)]
    rw [member_sending, if_pos rfl]
    exact hv
  constructor
  · unfold settings
    rw [hobject, Answer.text, Answer.text, hmember "settingName" (by decide),
      hmember "settingValue" (by decide)]
  · intro field hfield
    refine hmember field ?_
    rintro rfl
    exact hfield (by decide)

/-- A single setting may be sent among the others. -/
theorem withoutSetting_sameBut {s : String}
    (hname : Value.member answer "settingName" = .str s) (hgiven : Text.trim s ≠ "")
    (hsent : Spells (Value.member answer "initialSettings") o)
    (hv : Spells v (Fields.set (Text.trim s) (Value.member answer "settingValue") o)) :
    SameBut (answer.withoutSetting.sending v) answer := by
  have hread : answer.settings =
      .ok (Fields.set (Text.trim s) (Value.member answer "settingValue") o) := by
    simp only [settings, settingsObject_of_spells hsent, Answer.text, hname, if_neg hgiven]
    rfl
  have hobject : (answer.withoutSetting.sending v).settingsObject =
      .ok (Fields.set (Text.trim s) (Value.member answer "settingValue") o) := by
    refine settingsObject_of_spells ?_
    rw [member_sending, if_pos rfl]
    exact hv
  have hnone : (answer.withoutSetting.sending v).text "settingName" = .ok none := by
    refine text_of_null ?_
    rw [member_sending, if_neg (by decide), member_withoutSetting, if_neg (by decide)]
  constructor
  · rw [hread]
    simp only [settings, hobject, hnone]
    rfl
  · intro field hfield
    simp only [settingFields, List.mem_cons, List.not_mem_nil, or_false, not_or] at hfield
    rw [member_sending, if_neg (Ne.symm hfield.1), member_withoutSetting, if_pos hfield.2]

/-- An object in an object that was read comes back from its text. -/
theorem read_render_member {text field : String} (hanswer : Json.read text = .ok (.obj answer))
    (hmember : Value.member answer field = .obj o) :
    Json.read (Json.render (.obj o)) = .ok (.obj o) := by
  cases writable_of_read hanswer with
  | obj distinct each =>
      refine read_render ?_
      cases hfound : Fields.get? field answer with
      | none => simp [Value.member, hfound] at hmember
      | some v =>
          obtain rfl : v = .obj o := by simpa [Value.member, hfound] using hmember
          exact each _ (Fields.mem_of_get?_eq_some hfound)

/-- **The forms of settings are interchangeable**, whatever else the answer holds and whatever
becomes of it: an object and any text of it, the one that it is rendered as included if the
answer was read; and a single setting beside the others and among them, in either form. -/
theorem validate_spelled (answer : Answer) (utterance : String) (widgets : List Widget)
    (vocabulary : Vocabulary) (catalog : Catalog) :
    (∀ (o : Fields Value) (s : String), Value.member answer "initialSettings" = .obj o →
      Json.read s = .ok (.obj o) →
        validate (answer.sending (.str s)) utterance widgets vocabulary catalog =
          validate answer utterance widgets vocabulary catalog) ∧
    (∀ (o : Fields Value) (raw : String), Reply.payload raw = .ok answer →
      Value.member answer "initialSettings" = .obj o →
        validate (answer.sending (.str (Json.render (.obj o)))) utterance widgets vocabulary
            catalog =
          validate answer utterance widgets vocabulary catalog) ∧
    (∀ (o : Fields Value) (s : String) (v : Value), Value.member answer "settingName" = .str s →
      Text.trim s ≠ "" → Spells (Value.member answer "initialSettings") o →
      Spells v (Fields.set (Text.trim s) (Value.member answer "settingValue") o) →
        validate (answer.withoutSetting.sending v) utterance widgets vocabulary catalog =
          validate answer utterance widgets vocabulary catalog) := by
  have hobj : ∀ {o : Fields Value} {s : String},
      Value.member answer "initialSettings" = .obj o → Json.read s = .ok (.obj o) →
        SameBut (answer.sending (.str s)) answer := by
    intro o s hsent hread
    exact sending_sameBut (hsent ▸ .obj o) (.text hread)
  refine ⟨?_, ?_, ?_⟩
  · intro o s hsent hread
    exact (hobj hsent hread).validate_eq utterance widgets vocabulary catalog
  · intro o raw hraw hsent
    have hread := read_render_member (Reply.payload_eq_ok_iff.mp hraw) hsent
    exact (hobj hsent hread).validate_eq utterance widgets vocabulary catalog
  · intro o s v hname hgiven hsent hv
    exact (withoutSetting_sameBut hname hgiven hsent hv).validate_eq utterance widgets vocabulary
      catalog

/-- A change of a clock, of which one setting is sent in the text of an object and another beside
it, under a name with blanks around it. -/
def twoForms : Answer :=
  [("action", .str "updateWidgetSettings"), ("widgetType", .str "clock"),
    ("initialSettings", .str " \x7b\"showSeconds\": \"off\"\x7d"),
    ("settingName", .str " displayType "), ("settingValue", .str "Analog")]

/-- The same change with both settings in one object. -/
def oneForm : Answer :=
  [("action", .str "updateWidgetSettings"), ("widgetType", .str "clock"),
    ("initialSettings", .obj [("showSeconds", .str "off"), ("displayType", .str "Analog")])]

theorem validate_spelled_twoForms :
    Value.member twoForms "settingName" = .str " displayType " ∧ Text.trim " displayType " ≠ "" ∧
      Spells (Value.member twoForms "initialSettings") [("showSeconds", .str "off")] ∧
      validate twoForms "" Interpreter.clockHost.widgets .standard .standard = .ok {
        action := .updateWidgetSettings
        feedback := "Updating Clock..."
        widgetType := some "clock"
        target := some ⟨some "clock-1", some "Clock"⟩
        settings := some [("showSeconds", .bool false), ("displayType", .str "analog")] } := by
  have hname : Value.member twoForms "settingName" = .str " displayType " := by decide +kernel
  have hgiven : Text.trim " displayType " ≠ "" := by decide +kernel
  have hsent : Spells (Value.member twoForms "initialSettings") [("showSeconds", .str "off")] :=
    .text (by decide +kernel)
  have hsame := (validate_spelled twoForms "" Interpreter.clockHost.widgets .standard .standard).2.2
    _ _ _ hname hgiven hsent (.obj _)
  have hone : twoForms.withoutSetting.sending (.obj (Fields.set (Text.trim " displayType ")
      (Value.member twoForms "settingValue") [("showSeconds", .str "off")])) = oneForm := by
    decide +kernel
  refine ⟨hname, hgiven, hsent, ?_⟩
  rw [← hsame, hone]
  decide +kernel

end Answer

end CommandBar
