/-
What passing validation means.

`validate` reads the fields of an answer, finds the widget that it is about, checks
the settings, and only then words the feedback.  Nothing after the second step
changes whom the command is for, and nothing after the third changes its settings,
so a command that passes is described by two facts.  `Aim` says which widget or
which type it is for, one constructor for each thing that dispatching can make of
it, and `Checked` says that its settings fit the blueprint of that type.  Whoever
asks what a valid command can do takes `Validated` apart and never looks at the
functions.

The other direction is what stops a command.  All of validation only refuses, but
for one fault of the settings check and for key phrases that do not compile, so
over a catalog whose phrases compile the settings check alone decides whether
anything but a refusal comes out.
-/
import CommandBar.Proofs.Setting
import CommandBar.Proofs.Template
import CommandBar.Proofs.Trim
import CommandBar.Validation.Command

namespace CommandBar

open Json

/-- The actions for a widget that has to exist are those that are marked so. -/
def Vocabulary.Regular (vocabulary : Vocabulary) : Prop :=
  ∀ spec ∈ vocabulary,
    spec.targeted = true ↔ spec.action = .updateWidgetSettings ∨ spec.action = .removeWidget

theorem Vocabulary.standard_regular : Vocabulary.standard.Regular := by
  unfold Regular
  decide

/-- The phrases of every key setting can be read as templates. -/
def Catalog.Compiles (catalog : Catalog) : Prop :=
  ∀ b ∈ catalog, ∀ key, b.keySetting = some key →
    ∀ phrase ∈ key.intentPhrases, ∃ template, Phrase.Template.ofText phrase = .ok template

theorem Catalog.standard_compiles : Catalog.standard.Compiles := by
  have hall : ∀ b ∈ Catalog.standard, ∀ key ∈ b.keySetting.toList, ∀ phrase ∈ key.intentPhrases,
      (Phrase.Template.ofText phrase).toBool = true := by
    decide +kernel
  intro b hb key hkey phrase hphrase
  have hread := hall b hb key (by simp [hkey]) phrase hphrase
  cases htemplate : Phrase.Template.ofText phrase with
  | error fault => rw [htemplate] at hread; simp [Except.toBool] at hread
  | ok template => exact ⟨template, rfl⟩

theorem Catalog.find?_mem {catalog : Catalog} {type : String} {b : Blueprint}
    (h : catalog.find? type = some b) : b ∈ catalog ∧ b.type = type := by
  refine ⟨List.mem_of_find?_eq_some h, ?_⟩
  simpa using List.find?_some h

/-- The type of a blueprint is found, if perhaps with an earlier blueprint. -/
theorem Catalog.exists_find? {catalog : Catalog} {b : Blueprint} (h : b ∈ catalog) :
    ∃ found, catalog.find? b.type = some found := by
  rw [← Option.isSome_iff_exists, find?, List.find?_isSome]
  exact ⟨b, h, by simp⟩

theorem Catalog.ofType?_eq_some {catalog : Catalog} {type : Option String} {b : Blueprint}
    (h : catalog.ofType? type = some b) : type = some b.type ∧ b ∈ catalog := by
  obtain ⟨name, rfl, hfind⟩ := Option.bind_eq_some_iff.mp h
  obtain ⟨hmem, htype⟩ := Catalog.find?_mem hfind
  exact ⟨by rw [htype], hmem⟩

/-! ### Reading the fields -/

namespace Answer

variable {answer : Answer} {field s : String}

/-- What is read from a field is a name. -/
theorem text_named (h : answer.text field = .ok (some s)) : Text.Named s := by
  unfold text at h
  split at h
  · simp at h
  · simp only [Except.ok.injEq] at h
    split at h
    · simp at h
    · next hne =>
        simp only [Option.some.injEq] at h
        exact h ▸ Text.named_trim hne
  · exact absurd h (Refusal.raise_ne_ok _ _)

/-- A name is read from a field as it is. -/
theorem text_of_named (hs : Text.Named s) (h : Value.member answer field = .str s) :
    answer.text field = .ok (some s) := by
  simp only [text, h, hs.2, if_neg hs.1]

theorem text_of_null (h : Value.member answer field = .null) : answer.text field = .ok none := by
  simp only [text, h]

theorem text_refuses (answer : Answer) (field : String) :
    RefusesAt .field (answer.text field) := by
  unfold text
  split
  · exact RefusesAt.ok _
  · exact RefusesAt.ok _
  · exact RefusesAt.raise _

theorem action_ok {vocabulary : Vocabulary} {spec : ActionSpec}
    (h : answer.action vocabulary = .ok spec) : spec ∈ vocabulary := by
  unfold action at h
  simp only at h
  split at h
  · exact absurd h (Refusal.raise_ne_ok _ _)
  · split at h
    · exact absurd h (Refusal.raise_ne_ok _ _)
    · next found hfound =>
        simp only [Except.ok.injEq] at h
        exact h ▸ List.mem_of_find?_eq_some hfound

theorem action_refuses (answer : Answer) (vocabulary : Vocabulary) :
    RefusesAt .action (answer.action vocabulary) := by
  unfold action
  simp only
  split
  · exact RefusesAt.raise _
  · split
    · exact RefusesAt.raise _
    · exact RefusesAt.ok _

/-- A type that is read is one of the catalog. -/
theorem widgetType_ok {catalog : Catalog} {type : String}
    (h : answer.widgetType catalog = .ok (some type)) : ∃ b, catalog.find? type = some b := by
  obtain ⟨read, -, h⟩ := bind_eq_ok_iff.mp h
  split at h
  · simp at h
  · split at h
    · next b hb =>
        simp only [Except.ok.injEq, Option.some.injEq] at h
        exact ⟨b, h ▸ hb⟩
    · exact absurd h (Refusal.raise_ne_ok _ _)

theorem widgetType_refuses (answer : Answer) (catalog : Catalog) :
    RefusesAt .field (answer.widgetType catalog) := by
  refine RefusesAt.bind (text_refuses _ _) fun read _ => ?_
  split
  · exact RefusesAt.ok _
  · split
    · exact RefusesAt.ok _
    · exact RefusesAt.raise _

theorem settings_refuses (answer : Answer) : RefusesAt .field answer.settings := by
  refine RefusesAt.bind ?_ fun together _ => RefusesAt.bind (text_refuses _ _) ?_
  · unfold settingsObject
    split
    · exact RefusesAt.ok _
    · exact RefusesAt.ok _
    · split
      · exact RefusesAt.ok _
      · split
        · exact RefusesAt.raise _
        · exact RefusesAt.ok _
        · exact RefusesAt.raise _
    · exact RefusesAt.raise _
  · intro name _
    split
    · exact RefusesAt.ok _
    · exact RefusesAt.ok _

theorem target_refuses (answer : Answer) : RefusesAt .field answer.target :=
  RefusesAt.bind (text_refuses _ _) fun _ _ =>
    RefusesAt.bind (text_refuses _ _) fun _ _ => RefusesAt.ok _

/-- The parts of the target are what is read from their fields. -/
theorem target_ok {ref : Option Target} (h : answer.target = .ok ref) :
    answer.text "targetWidgetId" = .ok (ref.bind (·.id)) ∧
      answer.text "targetWidgetTitle" = .ok (ref.bind (·.title)) := by
  obtain ⟨id, hid, h⟩ := bind_eq_ok_iff.mp h
  obtain ⟨title, htitle, h⟩ := bind_eq_ok_iff.mp h
  simp only [Except.ok.injEq] at h
  subst h
  rw [hid, htitle]
  split
  · next hnone =>
      obtain ⟨rfl, rfl⟩ := hnone
      exact ⟨rfl, rfl⟩
  · exact ⟨rfl, rfl⟩

end Answer

/-! ### Finding the widget -/

namespace Resolution

theorem single_ok {described : String} {widgets : List Widget} {w : Widget}
    (h : single described widgets = .ok w) : widgets = [w] := by
  unfold single at h
  split at h
  · exact absurd h (Refusal.raise_ne_ok _ _)
  · simp only [Except.ok.injEq] at h
    rw [h]
  · exact absurd h (Refusal.raise_ne_ok _ _)

theorem single_refuses (described : String) (widgets : List Widget) :
    RefusesAt .command (single described widgets) := by
  unfold single
  split
  · exact RefusesAt.raise _
  · exact RefusesAt.ok _
  · exact RefusesAt.raise _

theorem candidates_subset {ref : Target} {widgets : List Widget} {w : Widget}
    (h : w ∈ candidates ref widgets) : w ∈ widgets := by
  have htitle : w ∈ withTitle ref widgets → w ∈ widgets := by
    unfold withTitle
    split
    · exact fun hw => (List.mem_filter.mp hw).1
    · simp
  unfold candidates at h
  split at h
  · exact htitle h
  · unfold withId at h
    split at h
    · exact (List.mem_filter.mp h).1
    · simp at h

theorem resolve_mem {ref : Option Target} {type : Option String} {widgets : List Widget}
    {w : Widget} (h : resolve ref type widgets = .ok w) : w ∈ widgets := by
  unfold resolve at h
  split at h
  · exact candidates_subset (by rw [single_ok h]; simp)
  · next type =>
      have hw : w ∈ widgets.filter fun w => w.type == type := by rw [single_ok h]; simp
      exact (List.mem_filter.mp hw).1
  · exact absurd h (Refusal.raise_ne_ok _ _)

theorem resolve_refuses (ref : Option Target) (type : Option String) (widgets : List Widget) :
    RefusesAt .command (resolve ref type widgets) := by
  unfold resolve
  split
  · exact single_refuses _ _
  · exact single_refuses _ _
  · exact RefusesAt.raise _

end Resolution

namespace Validation

/-! ### Reading and locating -/

/-- The request holds what is read from the fields of the answer. -/
structure Request.Reads (answer : Answer) (vocabulary : Vocabulary) (catalog : Catalog)
    (r : Request) : Prop where
  action : answer.action vocabulary = .ok r.spec
  widgetType : answer.widgetType catalog = .ok r.widgetType
  settings : answer.settings = .ok r.settings
  target : answer.target = .ok r.target
  feedback : answer.text "feedbackToUser" = .ok r.feedback
  title : answer.text "title" = .ok r.title
  contextualHint : answer.text "contextualHint" = .ok r.contextualHint

theorem readRequest_reads {answer : Answer} {vocabulary : Vocabulary} {catalog : Catalog}
    {r : Request} (h : readRequest answer vocabulary catalog = .ok r) :
    r.Reads answer vocabulary catalog := by
  obtain ⟨spec, hspec, h⟩ := bind_eq_ok_iff.mp h
  obtain ⟨widgetType, htype, h⟩ := bind_eq_ok_iff.mp h
  obtain ⟨settings, hsettings, h⟩ := bind_eq_ok_iff.mp h
  obtain ⟨target, htarget, h⟩ := bind_eq_ok_iff.mp h
  obtain ⟨feedback, hfeedback, h⟩ := bind_eq_ok_iff.mp h
  obtain ⟨title, htitle, h⟩ := bind_eq_ok_iff.mp h
  obtain ⟨contextualHint, hhint, h⟩ := bind_eq_ok_iff.mp h
  simp only [Except.ok.injEq] at h
  subst h
  exact ⟨hspec, htype, hsettings, htarget, hfeedback, htitle, hhint⟩

theorem readRequest_ok {answer : Answer} {vocabulary : Vocabulary} {catalog : Catalog}
    {r : Request} (h : readRequest answer vocabulary catalog = .ok r) :
    r.spec ∈ vocabulary ∧ ∀ type, r.widgetType = some type → ∃ b, catalog.find? type = some b := by
  have hreads := readRequest_reads h
  refine ⟨Answer.action_ok hreads.action, ?_⟩
  intro type htype
  exact Answer.widgetType_ok (htype ▸ hreads.widgetType)

/-- What stops the reading is a refusal of the action, or one of another field. -/
theorem readRequest_stops (answer : Answer) (vocabulary : Vocabulary) (catalog : Catalog) :
    StopsWith (fun fault => answer.action vocabulary = .error fault ∨ fault.IsRefusal .field)
      (readRequest answer vocabulary catalog) := by
  refine StopsWith.bind (fun fault h => Or.inl h) fun spec _ => ?_
  refine StopsWith.imp (P := Fault.IsRefusal .field) ?_ fun _ => Or.inr
  exact RefusesAt.bind (Answer.widgetType_refuses _ _) fun _ _ =>
    RefusesAt.bind (Answer.settings_refuses _) fun _ _ =>
    RefusesAt.bind (Answer.target_refuses _) fun _ _ =>
    RefusesAt.bind (Answer.text_refuses _ _) fun _ _ =>
    RefusesAt.bind (Answer.text_refuses _ _) fun _ _ =>
    RefusesAt.bind (Answer.text_refuses _ _) fun _ _ => RefusesAt.ok _

/-- What a command is for. -/
inductive Aim (widgets : List Widget) (catalog : Catalog) (c : Command) : Prop
  /-- A new widget of a known type. -/
  | add {b : Blueprint} (action : c.action = .addWidget)
      (type : catalog.ofType? c.widgetType = some b)
  /-- A new widget of a known type of which there is none. -/
  | openNew {b : Blueprint} (action : c.action = .openOrFocusWidget) (target : c.target = none)
      (type : catalog.ofType? c.widgetType = some b) (fresh : ∀ w ∈ widgets, w.type ≠ b.type)
  /-- The widget that is to be focused, of the type that was asked for. -/
  | focus {w : Widget} {b : Blueprint} (action : c.action = .openOrFocusWidget)
      (mem : w ∈ widgets) (target : c.target = some w.target) (type : c.widgetType = some w.type)
      (known : catalog.find? w.type = some b)
  /-- The widget that is to be changed, with something to change. -/
  | update {w : Widget} (action : c.action = .updateWidgetSettings) (mem : w ∈ widgets)
      (target : c.target = some w.target) (type : c.widgetType = some w.type)
      (given : c.settings ≠ none)
  /-- The widget that is to be removed. -/
  | remove {w : Widget} (action : c.action = .removeWidget) (mem : w ∈ widgets)
      (target : c.target = some w.target) (type : c.widgetType = some w.type)
  /-- Nothing at all. -/
  | noop (action : c.action = .noop)

section Locate

variable {r : Request} {widgets : List Widget} {catalog : Catalog} {c : Command}

/-- A widget of the type is focused if there is one.  Otherwise one is opened, which no id names,
and which takes the title it is called by unless it is given another. -/
theorem openOrFocus_cases {type : String} (h : openOrFocus r type widgets = .ok c) :
    (∃ w, Resolution.resolve r.target (some type) (widgets.filter fun w => w.type == type) = .ok w ∧
        c = { r.command with target := some w.target }) ∨
      (∀ w ∈ widgets, w.type ≠ type) ∧ (∀ ref, r.target = some ref → ref.id = none) ∧
        c = { r.command with title := r.title.or (r.target.bind (·.title)) } := by
  unfold openOrFocus at h
  simp only at h
  split at h
  · next hempty =>
      have hfresh : ∀ w ∈ widgets, w.type ≠ type := by
        intro w hw
        simpa using List.filter_eq_nil_iff.mp hempty w hw
      split at h
      · exact absurd h (Refusal.raise_ne_ok _ _)
      · next title htarget =>
          simp only [Except.ok.injEq] at h
          refine Or.inr ⟨hfresh, ?_, ?_⟩
          · intro ref href
            rw [htarget, Option.some.injEq] at href
            exact href ▸ rfl
          · rw [← h, htarget]
            rfl
      · next htarget =>
          simp only [Except.ok.injEq] at h
          refine Or.inr ⟨hfresh, by simp [htarget], ?_⟩
          rw [← h, htarget]
          simp [Request.command]
  · obtain ⟨w, hw, h⟩ := bind_eq_ok_iff.mp h
    simp only [Except.ok.injEq] at h
    exact Or.inl ⟨w, hw, h.symm⟩

theorem openOrFocus_aim {type : String} {b : Blueprint} (hb : catalog.find? type = some b)
    (haction : r.spec.action = .openOrFocusWidget) (htype : r.widgetType = some type)
    (h : openOrFocus r type widgets = .ok c) : Aim widgets catalog c := by
  rcases openOrFocus_cases h with ⟨w, hw, rfl⟩ | ⟨hfresh, -, rfl⟩
  · obtain ⟨hmem, hwtype⟩ := List.mem_filter.mp (Resolution.resolve_mem hw)
    have hwtype' : w.type = type := by simpa using hwtype
    exact .focus haction hmem rfl (by rw [hwtype']; exact htype) (by rw [hwtype']; exact hb)
  · have hbtype : b.type = type := (Catalog.find?_mem hb).2
    have hb' : catalog.ofType? r.widgetType = some b := by rw [htype]; exact hb
    exact .openNew haction rfl hb' (hbtype ▸ hfresh)

theorem targeted_aim (htargeted : r.spec.action = .updateWidgetSettings ∨
      r.spec.action = .removeWidget)
    (h : targeted r widgets = .ok c) : Aim widgets catalog c := by
  unfold targeted at h
  split at h
  · exact absurd h (Refusal.raise_ne_ok _ _)
  · next hgiven =>
      obtain ⟨w, hw, h⟩ := bind_eq_ok_iff.mp h
      simp only [Except.ok.injEq] at h
      subst h
      have hmem : w ∈ widgets := Resolution.resolve_mem hw
      rcases htargeted with hupdate | hremove
      · refine .update hupdate hmem rfl rfl ?_
        have hne : r.settings ≠ [] := fun hc => hgiven ⟨hupdate, hc⟩
        simp [Request.command, hne]
      · exact .remove hremove hmem rfl rfl

theorem locate_aim (hregular : r.spec.targeted = true ↔
      r.spec.action = .updateWidgetSettings ∨ r.spec.action = .removeWidget)
    (hknown : ∀ type, r.widgetType = some type → ∃ b, catalog.find? type = some b)
    (h : locate r widgets = .ok c) : Aim widgets catalog c := by
  unfold locate at h
  split at h
  · exact absurd h (Refusal.raise_ne_ok _ _)
  · exact absurd h (Refusal.raise_ne_ok _ _)
  · next type haction htype =>
      obtain ⟨b, hb⟩ := hknown type htype
      exact openOrFocus_aim hb haction htype h
  · next hadd hopen hfocus =>
      split at h
      · next htargeted => exact targeted_aim (hregular.mp htargeted) h
      · next huntargeted =>
          simp only [Except.ok.injEq] at h
          subst h
          have hnot : ¬ (r.spec.action = .updateWidgetSettings ∨ r.spec.action = .removeWidget) :=
            fun hc => huntargeted (hregular.mpr hc)
          -- without a type only `noop` gets this far, with one `addWidget` does too
          cases htype : r.widgetType with
          | none =>
              cases haction : r.spec.action with
              | addWidget => exact absurd htype (hadd haction)
              | openOrFocusWidget => exact absurd htype (hopen haction)
              | updateWidgetSettings => exact absurd (Or.inl haction) hnot
              | removeWidget => exact absurd (Or.inr haction) hnot
              | noop => exact .noop haction
          | some type =>
              obtain ⟨b, hb⟩ := hknown type htype
              have hb' : catalog.ofType? r.widgetType = some b := by rw [htype]; exact hb
              cases haction : r.spec.action with
              | addWidget => exact .add haction hb'
              | openOrFocusWidget => exact absurd htype (hfocus type haction)
              | updateWidgetSettings => exact absurd (Or.inl haction) hnot
              | removeWidget => exact absurd (Or.inr haction) hnot
              | noop => exact .noop haction

/-- Locating keeps what the request asks for, and a title is that of the request or the one that
it calls its target by. -/
theorem locate_ok (h : locate r widgets = .ok c) :
    c.action = r.spec.action ∧ ∀ s, c.title = some s →
      r.title = some s ∨ ∃ ref, r.target = some ref ∧ ref.title = some s := by
  have hplain : ∀ {c' : Command}, c'.action = r.spec.action → c'.title = r.title →
      c'.action = r.spec.action ∧ ∀ s, c'.title = some s →
        r.title = some s ∨ ∃ ref, r.target = some ref ∧ ref.title = some s :=
    fun haction htitle => ⟨haction, fun s hs => Or.inl (htitle ▸ hs)⟩
  unfold locate at h
  split at h
  · exact absurd h (Refusal.raise_ne_ok _ _)
  · exact absurd h (Refusal.raise_ne_ok _ _)
  · rcases openOrFocus_cases h with ⟨w, -, rfl⟩ | ⟨-, -, rfl⟩
    · exact hplain rfl rfl
    · refine ⟨rfl, fun s hs => ?_⟩
      -- the title of the request goes before that of its target
      rcases Option.or_eq_some_iff.mp hs with hown | ⟨-, hcalled⟩
      · exact Or.inl hown
      · exact Or.inr (Option.bind_eq_some_iff.mp hcalled)
  · split at h
    · unfold targeted at h
      split at h
      · exact absurd h (Refusal.raise_ne_ok _ _)
      · obtain ⟨w, -, h⟩ := bind_eq_ok_iff.mp h
        simp only [Except.ok.injEq] at h
        exact h ▸ hplain rfl rfl
    · simp only [Except.ok.injEq] at h
      exact h ▸ hplain rfl rfl

theorem locate_refuses (r : Request) (widgets : List Widget) :
    RefusesAt .command (locate r widgets) := by
  have hresolve : ∀ {f : Widget → Command} (ref type ws),
      RefusesAt .command (Resolution.resolve ref type ws >>= fun w => .ok (f w)) :=
    fun ref type ws =>
      RefusesAt.bind (Resolution.resolve_refuses ref type ws) fun w _ => RefusesAt.ok _
  unfold locate
  split
  · exact RefusesAt.raise _
  · exact RefusesAt.raise _
  · unfold openOrFocus
    simp only
    split
    · split
      · exact RefusesAt.raise _
      · exact RefusesAt.ok _
      · exact RefusesAt.ok _
    · exact hresolve _ _ _
  · split
    · unfold targeted
      split
      · exact RefusesAt.raise _
      · exact hresolve _ _ _
    · exact RefusesAt.ok _

end Locate

/-- The command of an answer with the widget it is for, its settings not checked yet. -/
def located (answer : Answer) (widgets : List Widget) (vocabulary : Vocabulary)
    (catalog : Catalog) : Except Fault Command :=
  readRequest answer vocabulary catalog >>= fun r => locate r widgets

/-! ### Checking and finishing -/

/-- The settings fit the blueprint of the type, if the command sets any on a known type. -/
def Checked (catalog : Catalog) (c : Command) : Prop :=
  c.action.setsSettings = true →
    ∀ b, catalog.ofType? c.widgetType = some b → b.AdmitsPatch c.patch

/-- A command that has passed validation. -/
structure Validated (widgets : List Widget) (catalog : Catalog) (c : Command) : Prop where
  aim : Aim widgets catalog c
  checked : Checked catalog c

/-- Only these four parts of a command say what it is for. -/
theorem Aim.congr {widgets : List Widget} {catalog : Catalog} {c c' : Command}
    (h : Aim widgets catalog c) (haction : c'.action = c.action)
    (htype : c'.widgetType = c.widgetType) (htarget : c'.target = c.target)
    (hgiven : c.settings ≠ none → c'.settings ≠ none) : Aim widgets catalog c' := by
  cases h with
  | add action type => exact .add (haction ▸ action) (htype ▸ type)
  | openNew action target type fresh =>
      exact .openNew (haction ▸ action) (htarget ▸ target) (htype ▸ type) fresh
  | focus action mem target type known =>
      exact .focus (haction ▸ action) mem (htarget ▸ target) (htype ▸ type) known
  | update action mem target type given =>
      exact .update (haction ▸ action) mem (htarget ▸ target) (htype ▸ type) (hgiven given)
  | remove action mem target type =>
      exact .remove (haction ▸ action) mem (htarget ▸ target) (htype ▸ type)
  | noop action => exact .noop (haction ▸ action)

section CheckSettings

variable {c c' : Command} {catalog : Catalog}

/-- Checking changes the settings only, and leaves some where there are some. -/
theorem checkSettings_ok (h : checkSettings c catalog = .ok c') :
    ∃ settings, c' = { c with settings } ∧ (c.settings ≠ none → settings ≠ none) ∧
      Checked catalog c' := by
  unfold checkSettings at h
  split at h
  · next patch b hsettings htype =>
      split at h
      · obtain ⟨checked, hcheck, h⟩ := bind_eq_ok_iff.mp h
        simp only [Except.ok.injEq] at h
        subst h
        refine ⟨some checked, rfl, by simp, ?_⟩
        intro _ b' hb'
        have hsame : b' = b := by simpa [htype] using hb'.symm
        rw [hsame]
        exact (Setting.check_ok hcheck).2
      · next hsets =>
          simp only [Except.ok.injEq] at h
          subst h
          exact ⟨c.settings, rfl, id, fun hc => absurd hc hsets⟩
  · next hnone =>
      simp only [Except.ok.injEq] at h
      subst h
      refine ⟨c.settings, rfl, id, ?_⟩
      intro _ b hb
      cases hsettings : c.settings with
      | none => simp [Blueprint.AdmitsPatch, Command.patch, hsettings]
      | some patch => exact absurd hb (hnone patch b hsettings)

/-- Where settings count, what is left of them is what the settings check makes of them. -/
theorem checkSettings_patch {b : Blueprint} (hsets : c.action.setsSettings = true)
    (hb : catalog.ofType? c.widgetType = some b) (h : checkSettings c catalog = .ok c') :
    Setting.check b c.patch = .ok c'.patch := by
  unfold checkSettings at h
  cases hsettings : c.settings with
  | none =>
      simp only [hsettings, Except.ok.injEq] at h
      subst h
      simp only [Command.patch, hsettings, Option.getD_none, Setting.check]
  | some patch =>
      simp only [hsettings, hb, if_pos hsets] at h
      obtain ⟨checked, hcheck, h⟩ := bind_eq_ok_iff.mp h
      simp only [Except.ok.injEq] at h
      subst h
      simpa only [Command.patch, hsettings, Option.getD_some] using hcheck

/-- The settings check decides what stops this step. -/
theorem checkSettings_error_iff {fault : Fault} :
    checkSettings c catalog = .error fault ↔
      ∃ b, catalog.ofType? c.widgetType = some b ∧ c.action.setsSettings = true ∧
        Setting.check b c.patch = .error fault := by
  unfold checkSettings
  split
  · next patch b hsettings htype =>
      have hpatch : c.patch = patch := by simp [Command.patch, hsettings]
      split
      · next hsets =>
          rw [bind_eq_error_iff, hpatch]
          simp [hsets, htype]
      · next hsets => simp [hsets]
  · next hnone =>
      simp only [reduceCtorEq, false_iff]
      rintro ⟨b, hb, -, hcheck⟩
      cases hsettings : c.settings with
      | none => simp [Command.patch, hsettings, Setting.check] at hcheck
      | some patch => exact hnone patch b hsettings hb

end CheckSettings

/-- A key setting is missing if settings count, the type has one, and the patch holds nothing of
substance for it. -/
theorem missingKey?_eq_some_iff {c : Command} {catalog : Catalog} {b : Blueprint}
    {key : KeySetting} :
    missingKey? c catalog = some (b, key) ↔
      c.action.setsSettings = true ∧ catalog.ofType? c.widgetType = some b ∧
        b.keySetting = some key ∧ (Value.member c.patch key.name).isTruthy = false := by
  unfold missingKey?
  by_cases hsets : c.action.setsSettings = true
  · simp only [hsets, Bool.not_true, Bool.false_eq_true, if_false, Option.bind_eq_bind,
      Option.bind_eq_some_iff, true_and]
    constructor
    · rintro ⟨found, htype, foundKey, hkey, hmissing⟩
      split at hmissing
      · exact absurd hmissing (by simp)
      · next hblank =>
          obtain ⟨rfl, rfl⟩ : found = b ∧ foundKey = key := by simpa using hmissing
          exact ⟨htype, hkey, by simpa using hblank⟩
    · rintro ⟨htype, hkey, hblank⟩
      exact ⟨b, htype, key, hkey, if_neg (by simp [hblank])⟩
  · simp [hsets]

/-- Only a phrase that does not compile stops the search for warnings. -/
theorem keyWarnings_error {c : Command} {utterance : String} {catalog : Catalog} {fault : Fault}
    (h : keyWarnings c utterance catalog = .error fault) :
    fault.IsUnbalanced ∧ ¬ catalog.Compiles := by
  unfold keyWarnings at h
  split at h
  · simp at h
  · next b key hmissing =>
      obtain ⟨-, htype, hkey, -⟩ := missingKey?_eq_some_iff.mp hmissing
      rcases bind_eq_error_iff.mp h with hread | ⟨templates, -, h⟩
      · obtain ⟨phrase, hphrase, hstop⟩ := mapM_error hread
        refine ⟨Phrase.Template.ofText_stops _ _ hstop, ?_⟩
        intro hcompiles
        obtain ⟨template, htemplate⟩ :=
          hcompiles b (Catalog.ofType?_eq_some htype).2 key hkey phrase hphrase
        rw [htemplate] at hstop
        simp at hstop
      · simp at h

/-! ### The whole -/

section Validate

variable {answer : Answer} {utterance : String} {widgets : List Widget} {vocabulary : Vocabulary}
  {catalog : Catalog}

/-- Validation locates, checks, and finishes. -/
theorem validate_eq :
    validate answer utterance widgets vocabulary catalog =
      located answer widgets vocabulary catalog >>= fun c => checkSettings c catalog >>= fun c' =>
        keyWarnings c' utterance catalog >>= fun warnings => .ok (finish c' warnings catalog) := by
  unfold validate located
  cases readRequest answer vocabulary catalog with
  | error fault => rfl
  | ok r => rfl

/-- A command that passes has been located and checked, and differs from what was located in its
settings and its words only. -/
theorem validate_located {c : Command}
    (h : validate answer utterance widgets vocabulary catalog = .ok c) :
    ∃ r found, readRequest answer vocabulary catalog = .ok r ∧ locate r widgets = .ok found ∧
      checkSettings found catalog = .ok { found with settings := c.settings } ∧
      c.action = found.action ∧ c.widgetType = found.widgetType ∧ c.target = found.target ∧
      c.title = found.title := by
  rw [validate_eq] at h
  obtain ⟨found, hfound, h⟩ := bind_eq_ok_iff.mp h
  obtain ⟨checked, hchecked, h⟩ := bind_eq_ok_iff.mp h
  obtain ⟨warnings, -, h⟩ := bind_eq_ok_iff.mp h
  obtain ⟨r, hread, hlocate⟩ := bind_eq_ok_iff.mp hfound
  obtain ⟨settings, rfl, -, -⟩ := checkSettings_ok hchecked
  simp only [Except.ok.injEq] at h
  subst h
  exact ⟨r, found, hread, hlocate, hchecked, rfl, rfl, rfl, rfl⟩

/-- **A command that passes validation has an aim and checked settings.** -/
theorem validate_ok (hvocabulary : vocabulary.Regular) {c : Command}
    (h : validate answer utterance widgets vocabulary catalog = .ok c) :
    Validated widgets catalog c := by
  obtain ⟨r, found, hread, hlocate, hcheck, haction, htype, htarget, -⟩ := validate_located h
  obtain ⟨hspec, hknown⟩ := readRequest_ok hread
  have haim : Aim widgets catalog found := locate_aim (hvocabulary _ hspec) hknown hlocate
  obtain ⟨settings, hsame, hgiven, hfits⟩ := checkSettings_ok hcheck
  have hsettings : c.settings = settings := congrArg Command.settings hsame
  refine ⟨haim.congr haction htype htarget (hsettings ▸ hgiven), ?_⟩
  intro hsets b hb
  exact hfits (haction ▸ hsets) b (htype ▸ hb)

/-- A command that passes validation has the action of the request, and its title from it. -/
theorem validate_reads {c : Command}
    (h : validate answer utterance widgets vocabulary catalog = .ok c) :
    ∃ r, readRequest answer vocabulary catalog = .ok r ∧ c.action = r.spec.action ∧
      ∀ s, c.title = some s →
        r.title = some s ∨ ∃ ref, r.target = some ref ∧ ref.title = some s := by
  obtain ⟨r, found, hread, hlocate, -, haction, -, -, htitle⟩ := validate_located h
  obtain ⟨hfound, hcalled⟩ := locate_ok hlocate
  exact ⟨r, hread, haction.trans hfound, fun s hs => hcalled s (htitle ▸ hs)⟩

/-- The settings of the located command have an integer that no double can hold. -/
inductive Overflows (answer : Answer) (widgets : List Widget) (vocabulary : Vocabulary)
    (catalog : Catalog) : Prop
  | intro {c : Command} {b : Blueprint}
      (located : located answer widgets vocabulary catalog = .ok c)
      (sets : c.action.setsSettings = true) (type : catalog.ofType? c.widgetType = some b)
      (overflows : Setting.Overflows b c.patch)

/-- What stops the reading of the fields stops validation. -/
theorem validate_of_unread {fault : Fault}
    (h : readRequest answer vocabulary catalog = .error fault) :
    validate answer utterance widgets vocabulary catalog = .error fault := by
  rw [validate, h]
  rfl

/-- Once the fields are read, what stops validation is a refusal of the command, an integer that
no double can hold, or a phrase of the catalog that does not compile. -/
theorem validate_error_of_read {r : Request} {fault : Fault}
    (hread : readRequest answer vocabulary catalog = .ok r)
    (h : validate answer utterance widgets vocabulary catalog = .error fault) :
    fault.IsRefusal .command ∨
      fault = .numberTooLarge ∧ Overflows answer widgets vocabulary catalog ∨
      fault.IsUnbalanced ∧ ¬ catalog.Compiles := by
  rw [validate_eq] at h
  rcases bind_eq_error_iff.mp h with hlocated | ⟨c, hc, h⟩
  · rw [located, hread] at hlocated
    exact Or.inl (locate_refuses r widgets fault hlocated)
  rcases bind_eq_error_iff.mp h with hcheck | ⟨checked, -, h⟩
  · obtain ⟨b, hb, hsets, hcheck⟩ := checkSettings_error_iff.mp hcheck
    rcases Setting.check_error hcheck with hr | ⟨hlarge, hover⟩
    · exact Or.inl hr
    · exact Or.inr (Or.inl ⟨hlarge, hc, hsets, hb, hover⟩)
  · rcases bind_eq_error_iff.mp h with hwarnings | ⟨warnings, -, h⟩
    · exact Or.inr (Or.inr (keyWarnings_error hwarnings))
    · simp at h

/-- What stops validation is a refusal, an integer that no double can hold, or a phrase of the
catalog that does not compile. -/
theorem validate_error {fault : Fault}
    (h : validate answer utterance widgets vocabulary catalog = .error fault) :
    (∃ r : Refusal, fault = .command r.error) ∨
      fault = .numberTooLarge ∧ Overflows answer widgets vocabulary catalog ∨
      fault.IsUnbalanced ∧ ¬ catalog.Compiles := by
  cases hread : readRequest answer vocabulary catalog with
  | error other =>
      rw [validate_of_unread hread] at h
      simp only [Except.error.injEq] at h
      subst h
      rcases readRequest_stops answer vocabulary catalog other hread with haction | ⟨r, -, hr⟩
      · obtain ⟨r, -, hr⟩ := Answer.action_refuses answer vocabulary other haction
        exact Or.inl ⟨r, hr⟩
      · exact Or.inl ⟨r, hr⟩
  | ok r =>
      rcases validate_error_of_read hread h with ⟨refusal, -, hrefusal⟩ | hother
      · exact Or.inl ⟨refusal, hrefusal⟩
      · exact Or.inr hother

theorem validate_overflows (h : Overflows answer widgets vocabulary catalog) :
    validate answer utterance widgets vocabulary catalog = .error .numberTooLarge := by
  obtain ⟨hc, hsets, hb, hover⟩ := h
  have hcheck := checkSettings_error_iff.mpr ⟨_, hb, hsets, Setting.check_overflows hover⟩
  rw [validate_eq, hc]
  exact bind_eq_error_iff.mpr (Or.inr ⟨_, rfl, bind_eq_error_iff.mpr (Or.inl hcheck)⟩)

/-- **Over a catalog whose phrases compile, validation stops without a refusal exactly when the
settings of the located command overflow.** -/
theorem validate_fault_iff (hcatalog : catalog.Compiles) {fault : Fault}
    (hfault : ∀ e, fault ≠ .command e) :
    validate answer utterance widgets vocabulary catalog = .error fault ↔
      fault = .numberTooLarge ∧ Overflows answer widgets vocabulary catalog := by
  constructor
  · intro h
    rcases validate_error h with ⟨r, hr⟩ | hover | ⟨-, hnot⟩
    · exact absurd hr (hfault _)
    · exact hover
    · exact absurd hcatalog hnot
  · rintro ⟨rfl, hover⟩
    exact validate_overflows hover

end Validate

end Validation

end CommandBar
