/-
Which widget a reference means.

`Means` is the precedence written down without the lists of candidates that the
resolver goes through: an id decides where some widget has it, a title where no
widget has the id, a type where there is no reference.  At the deciding step the
widget has to stand alone, and the step is not left for the next one because
several match.  Standing alone is a fact about places in the row and not about
values, since nothing keeps two widgets of a row from being equal.

Resolving is then one equivalence, with no word on what it does elsewhere but that
it refuses.  A command for a widget that has to exist takes everything it says of
its target from the resolved widget, the type included, so a type that the answer
names counts for nothing once a reference has been resolved.
-/
import CommandBar.Proofs.Validation

namespace CommandBar

namespace Resolution

/-! ### Standing alone -/

/-- The widget stands in the row and has the property, and no other place of the row has it. -/
def Only (p : Widget → Prop) (widgets : List Widget) (w : Widget) : Prop :=
  ∃ front back, widgets = front ++ w :: back ∧ p w ∧ ∀ v ∈ front ++ back, ¬ p v

theorem Only.mem {p : Widget → Prop} {widgets : List Widget} {w : Widget}
    (h : Only p widgets w) : w ∈ widgets := by
  obtain ⟨front, back, rfl, -, -⟩ := h
  simp

theorem Only.eq_of_mem {p : Widget → Prop} {widgets : List Widget} {v w : Widget}
    (h : Only p widgets w) (hv : v ∈ widgets) (hp : p v) : v = w := by
  obtain ⟨front, back, rfl, -, hothers⟩ := h
  by_contra hne
  have hother : v ∈ front ++ back := by
    simp only [List.mem_append, List.mem_cons] at hv ⊢
    tauto
  exact hothers v hother hp

section Single

variable {ref : Target} {widgets : List Widget} {w : Widget} {described : String}

/-- One widget is left of a row exactly if it stands alone. -/
theorem filter_eq_singleton_iff {q : Widget → Bool} {p : Widget → Prop}
    (hq : ∀ v, q v = true ↔ p v) : widgets.filter q = [w] ↔ Only p widgets w := by
  constructor
  · intro h
    obtain ⟨front, back, hsplit, hfront, hw, hback⟩ := List.filter_eq_cons_iff.mp h
    refine ⟨front, back, hsplit, (hq w).mp hw, ?_⟩
    intro v hv hp
    rcases List.mem_append.mp hv with hv | hv
    · exact hfront v hv ((hq v).mpr hp)
    · exact List.filter_eq_nil_iff.mp hback v hv ((hq v).mpr hp)
  · rintro ⟨front, back, hsplit, hw, hothers⟩
    refine List.filter_eq_cons_iff.mpr ⟨front, back, hsplit, ?_, (hq w).mpr hw, ?_⟩
    · intro v hv hkeep
      exact hothers v (List.mem_append_left _ hv) ((hq v).mp hkeep)
    · refine List.filter_eq_nil_iff.mpr fun v hv hkeep => ?_
      exact hothers v (List.mem_append_right _ hv) ((hq v).mp hkeep)

theorem single_eq_ok_iff : single described widgets = .ok w ↔ widgets = [w] := by
  constructor
  · exact single_ok
  · rintro rfl
    rfl

/-- Any other row is refused, as a reference that cannot be resolved. -/
theorem single_refused (h : ∀ w, widgets ≠ [w]) :
    ∃ e, single described widgets = .error (.command e) ∧ e.kind = .target := by
  unfold single
  split
  · exact ⟨_, rfl, rfl⟩
  · next v => exact absurd rfl (h v)
  · exact ⟨_, rfl, rfl⟩

/-! ### The precedence -/

/-- No widget has the id of the reference, or the reference has none. -/
def Unknown (ref : Target) (widgets : List Widget) : Prop :=
  ∀ id, ref.id = some id → ∀ v ∈ widgets, v.id ≠ id

/-- The widget that a reference means, or a type where there is no reference. -/
inductive Means (widgets : List Widget) : Option Target → Option String → Widget → Prop
  /-- It is the only one with the id. -/
  | byId {ref : Target} {type : Option String} {id : String} {w : Widget}
      (named : ref.id = some id) (only : Only (fun v => v.id = id) widgets w) :
      Means widgets (some ref) type w
  /-- No widget has the id, and it is the only one with the title in some case. -/
  | byTitle {ref : Target} {type : Option String} {title : String} {w : Widget}
      (unknown : Unknown ref widgets) (titled : ref.title = some title)
      (only : Only (fun v => Text.fold v.title = Text.fold title) widgets w) :
      Means widgets (some ref) type w
  /-- There is no reference, and it is the only one of the type. -/
  | byType {type : String} {w : Widget} (only : Only (fun v => v.type = type) widgets w) :
      Means widgets none (some type) w

theorem Means.mem {ref : Option Target} {type : Option String}
    (h : Means widgets ref type w) : w ∈ widgets := by
  cases h with
  | byId named only => exact only.mem
  | byTitle unknown titled only => exact only.mem
  | byType only => exact only.mem

theorem withId_eq_nil_iff : withId ref widgets = [] ↔ Unknown ref widgets := by
  unfold withId Unknown
  cases ref.id with
  | none => simp
  | some id => simp [List.filter_eq_nil_iff]

theorem withId_eq_singleton_iff :
    withId ref widgets = [w] ↔ ∃ id, ref.id = some id ∧ Only (fun v => v.id = id) widgets w := by
  unfold withId
  cases ref.id with
  | none => simp
  | some id => simp [filter_eq_singleton_iff fun v : Widget => beq_iff_eq (a := v.id) (b := id)]

theorem withTitle_eq_singleton_iff :
    withTitle ref widgets = [w] ↔ ∃ title, ref.title = some title ∧
      Only (fun v => Text.fold v.title = Text.fold title) widgets w := by
  unfold withTitle
  cases ref.title with
  | none => simp
  | some title =>
      have hfold : ∀ v : Widget, (Text.fold v.title == Text.fold title) = true ↔
          Text.fold v.title = Text.fold title := fun v => beq_iff_eq
      simp [filter_eq_singleton_iff hfold]

/-- The id has one candidate, or it has none and the title has one. -/
theorem candidates_eq_singleton_iff :
    candidates ref widgets = [w] ↔
      withId ref widgets = [w] ∨ withId ref widgets = [] ∧ withTitle ref widgets = [w] := by
  unfold candidates
  cases hfound : withId ref widgets with
  | nil => simp
  | cons first rest => simp

/-- Resolving finds what is meant. -/
theorem resolve_eq_ok_iff (ref : Option Target) (type : Option String) (widgets : List Widget)
    (w : Widget) : resolve ref type widgets = .ok w ↔ Means widgets ref type w := by
  cases ref with
  | some ref =>
      simp only [resolve, single_eq_ok_iff, candidates_eq_singleton_iff, withId_eq_nil_iff,
        withId_eq_singleton_iff, withTitle_eq_singleton_iff]
      constructor
      · rintro (⟨id, hid, honly⟩ | ⟨hunknown, title, htitle, honly⟩)
        · exact .byId hid honly
        · exact .byTitle hunknown htitle honly
      · intro h
        cases h with
        | byId named only => exact Or.inl ⟨_, named, only⟩
        | byTitle unknown titled only => exact Or.inr ⟨unknown, _, titled, only⟩
  | none =>
      cases type with
      | some type =>
          have htype : ∀ v : Widget, (v.type == type) = true ↔ v.type = type := fun v => beq_iff_eq
          simp only [resolve, single_eq_ok_iff, filter_eq_singleton_iff htype]
          constructor
          · exact .byType
          · intro h
            cases h with
            | byType only => exact only
      | none =>
          constructor
          · intro h
            exact absurd h (Refusal.raise_ne_ok _ _)
          · intro h
            cases h

/-- Where nothing is meant, the reference is refused as one that cannot be resolved. -/
theorem resolve_refused {ref : Option Target} {type : Option String}
    (h : ∀ w, ¬ Means widgets ref type w) :
    ∃ e, resolve ref type widgets = .error (.command e) ∧ e.kind = .target := by
  have hnone : ∀ w, resolve ref type widgets ≠ .ok w :=
    fun w hw => h w ((resolve_eq_ok_iff ref type widgets w).mp hw)
  have hsingle : ∀ {described : String} {found : List Widget},
      (∀ w, single described found ≠ .ok w) →
        ∃ e, single described found = .error (.command e) ∧ e.kind = .target :=
    fun hne => single_refused fun w hw => hne w (single_eq_ok_iff.mpr hw)
  unfold resolve at hnone ⊢
  split at hnone
  · exact hsingle hnone
  · exact hsingle hnone
  · exact ⟨_, rfl, rfl⟩

end Single

end Resolution

namespace Validation

open Resolution

variable {answer : Answer} {utterance : String} {widgets : List Widget} {vocabulary : Vocabulary}
  {catalog : Catalog} {r : Request} {c : Command}

/-! ### The target of a command -/

/-- The command of a request for a widget that has to exist is for the widget that is meant. -/
theorem locate_means (htargeted : r.spec.targeted = true)
    (haction : r.spec.action = .updateWidgetSettings ∨ r.spec.action = .removeWidget)
    (h : locate r widgets = .ok c) :
    ∃ w, Means widgets r.target r.widgetType w ∧ c.target = some w.target ∧
      c.widgetType = some w.type := by
  have hlocated : targeted r widgets = .ok c := by
    rcases haction with haction | haction
    · simpa [locate, haction, htargeted] using h
    · simpa [locate, haction, htargeted] using h
  unfold targeted at hlocated
  split at hlocated
  · exact absurd hlocated (Refusal.raise_ne_ok _ _)
  · obtain ⟨w, hw, hlocated⟩ := bind_eq_ok_iff.mp hlocated
    simp only [Except.ok.injEq] at hlocated
    subst hlocated
    exact ⟨w, (resolve_eq_ok_iff _ _ _ w).mp hw, rfl, rfl⟩

/-- What is read off a valid change or removal. -/
theorem validate_means
    (hvocabulary : ∀ spec ∈ vocabulary,
      spec.action = .updateWidgetSettings ∨ spec.action = .removeWidget → spec.targeted = true)
    (h : validate answer utterance widgets vocabulary catalog = .ok c)
    (haction : c.action = .updateWidgetSettings ∨ c.action = .removeWidget) :
    ∃ ref type w, answer.target = .ok ref ∧ answer.widgetType catalog = .ok type ∧
      Means widgets ref type w ∧ c.target = some w.target ∧ c.widgetType = some w.type := by
  obtain ⟨r, found, hread, hlocate, -, hsame, htype, htarget, -⟩ := validate_located h
  have hreads := readRequest_reads hread
  have hspec : r.spec.action = .updateWidgetSettings ∨ r.spec.action = .removeWidget := by
    rwa [hsame, (locate_ok hlocate).1] at haction
  have htargeted := hvocabulary r.spec (Answer.action_ok hreads.action) hspec
  obtain ⟨w, hmeans, hfound, hfoundType⟩ := locate_means htargeted hspec hlocate
  exact ⟨r.target, r.widgetType, w, hreads.target, hreads.widgetType, hmeans,
    htarget.trans hfound, htype.trans hfoundType⟩

/-- **Resolving follows the precedence and never guesses.**  It finds the widget that is meant
and refuses where none is.  A valid change or removal is for the widget that is meant and of its
type, whatever type the answer has named. -/
theorem resolve_precedence :
    (∀ (ref : Option Target) (type : Option String) (widgets : List Widget),
      (∀ w, resolve ref type widgets = .ok w ↔ Means widgets ref type w) ∧
        ((∀ w, ¬ Means widgets ref type w) →
          ∃ e, resolve ref type widgets = .error (.command e) ∧ e.kind = .target)) ∧
      ∀ vocabulary : Vocabulary, (∀ spec ∈ vocabulary,
          spec.action = .updateWidgetSettings ∨ spec.action = .removeWidget →
            spec.targeted = true) →
        ∀ (answer : Answer) (utterance : String) (widgets : List Widget) (catalog : Catalog)
          (c : Command), validate answer utterance widgets vocabulary catalog = .ok c →
            c.action = .updateWidgetSettings ∨ c.action = .removeWidget →
            ∃ ref type w, answer.target = .ok ref ∧ answer.widgetType catalog = .ok type ∧
              Means widgets ref type w ∧ c.target = some w.target ∧ c.widgetType = some w.type := by
  constructor
  · intro ref type widgets
    exact ⟨resolve_eq_ok_iff ref type widgets, resolve_refused⟩
  · intro vocabulary hvocabulary answer utterance widgets catalog c hvalid haction
    exact validate_means hvocabulary hvalid haction

/-- Two clocks and a note, one of the clocks under the title that the other has as its id. -/
def crossedNames : List Widget :=
  [{ id := "clock-1", type := "clock", title := "Berlin" },
    { id := "clock-2", type := "clock", title := "CLOCK-1" },
    { id := "notes-1", type := "notes", title := "Plans" }]

/-- A removal that names the first clock and calls it a note. -/
def mislabelled : Answer :=
  [("action", .str "removeWidget"), ("targetWidgetId", .str "clock-1"),
    ("targetWidgetTitle", .str "plans"), ("widgetType", .str "notes")]

/-- The id goes before the title and before the type. -/
theorem resolve_precedence_mislabelled :
    (∀ spec ∈ Vocabulary.standard,
      spec.action = .updateWidgetSettings ∨ spec.action = .removeWidget → spec.targeted = true) ∧
      ∃ c w, validate mislabelled "" crossedNames .standard .standard = .ok c ∧
        Means crossedNames (some ⟨some "clock-1", some "plans"⟩) (some "notes") w ∧
        c.target = some w.target ∧ c.widgetType = some w.type ∧ w.id = "clock-1" := by
  have hvocabulary : ∀ spec ∈ Vocabulary.standard,
      spec.action = .updateWidgetSettings ∨ spec.action = .removeWidget → spec.targeted = true :=
    fun spec hspec => (Vocabulary.standard_regular spec hspec).mpr
  have hvalid : validate mislabelled "" crossedNames .standard .standard = .ok {
      action := .removeWidget
      feedback := "Removing Berlin..."
      widgetType := some "clock"
      target := some ⟨some "clock-1", some "Berlin"⟩ } := by
    decide +kernel
  have htarget : mislabelled.target = .ok (some ⟨some "clock-1", some "plans"⟩) := by
    decide +kernel
  have htype : mislabelled.widgetType .standard = .ok (some "notes") := by
    decide +kernel
  obtain ⟨ref, type, w, href, hnamed, hmeans, hc, hctype⟩ :=
    resolve_precedence.2 .standard hvocabulary _ _ _ _ _ hvalid (Or.inr rfl)
  rw [htarget, Except.ok.injEq] at href
  rw [htype, Except.ok.injEq] at hnamed
  subst href hnamed
  refine ⟨hvocabulary, _, w, hvalid, hmeans, hc, hctype, ?_⟩
  simp only [Widget.target, Option.some.injEq, Target.mk.injEq] at hc
  exact hc.1.symm

end Validation

end CommandBar
