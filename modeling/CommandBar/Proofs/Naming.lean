/-
Whose names an answer is refused by.

Validation is given a catalog, and what it tells of a type it mostly tells by the name
that this catalog has for it.  Where the answer names no widget and its type does not
decide which one is meant, it is the name of the standard catalog that is told.
`validateNamed` has a catalog of its own for this name, so that two runs can be compared
that differ in it alone; with the standard one it is `validate`.

Such a refusal is the last thing that happens in a run, so the runs either come to the
same or are both refused there, and then they differ exactly if the names do.
-/
import CommandBar.Proofs.Validation

namespace CommandBar

open Json

/-! ### The names as a parameter -/

/-- The widget that is meant, the type described by the name that it has in `names`. -/
def Resolution.resolveNamed (names : Catalog) (ref : Option Target) (type : Option String)
    (widgets : List Widget) : Except Fault Widget :=
  match ref, type with
  | some ref, _ => single ref.describe (candidates ref widgets)
  | none, some type =>
    single (names.displayName type ++ " widget") (widgets.filter fun w => w.type == type)
  | none, none => Refusal.noTarget.raise

namespace Validation

/-- The command to open or focus a widget of a type. -/
def openOrFocusNamed (names : Catalog) (r : Request) (type : String) (widgets : List Widget) :
    Except Fault Command :=
  let command := r.command
  match widgets.filter fun w => w.type == type with
  | [] =>
    match r.target with
    | some ⟨some id, title⟩ =>
      (Refusal.noSuchId type id (Target.describe ⟨some id, title⟩)).raise
    | some ⟨none, title⟩ => .ok { command with title := command.title.or title }
    | none => .ok command
  | existing => do
    let w ← Resolution.resolveNamed names r.target (some type) existing
    .ok { command with target := some w.target }

/-- The command for a widget that has to exist. -/
def targetedNamed (names : Catalog) (r : Request) (widgets : List Widget) :
    Except Fault Command :=
  if r.spec.action = .updateWidgetSettings ∧ r.settings = [] then Refusal.noChange.raise
  else do
    let w ← Resolution.resolveNamed names r.target r.widgetType widgets
    .ok { r.command with target := some w.target, widgetType := some w.type }

/-- The command of a request, with the widget it is for. -/
def locateNamed (names : Catalog) (r : Request) (widgets : List Widget) :
    Except Fault Command :=
  match r.spec.action, r.widgetType with
  | .addWidget, none => (Refusal.noType .addWidget).raise
  | .openOrFocusWidget, none => (Refusal.noType .openOrFocusWidget).raise
  | .openOrFocusWidget, some type => openOrFocusNamed names r type widgets
  | _, _ => if r.spec.targeted then targetedNamed names r widgets else .ok r.command

/-- The command that an answer stands for. -/
def validateNamed (names : Catalog) (answer : Answer) (utterance : String)
    (widgets : List Widget) (vocabulary : Vocabulary) (catalog : Catalog) :
    Except Fault Command := do
  let request ← readRequest answer vocabulary catalog
  let located ← locateNamed names request widgets
  let checked ← checkSettings located catalog
  let warnings ← keyWarnings checked utterance catalog
  .ok (finish checked warnings catalog)

variable {answer : Answer} {utterance : String} {widgets : List Widget} {vocabulary : Vocabulary}
  {catalog names names' : Catalog} {r : Request} {type described described' : String}

/-- Validation has the names of the standard catalog. -/
theorem validateNamed_standard (answer : Answer) (utterance : String) (widgets : List Widget)
    (vocabulary : Vocabulary) (catalog : Catalog) :
    validateNamed .standard answer utterance widgets vocabulary catalog =
      validate answer utterance widgets vocabulary catalog := rfl

/-! ### Two runs -/

section Together

variable {α β : Type}

/-- Both come to the same, or both are stopped. -/
def Together (x y : Except Fault α) : Prop :=
  x = y ∨ ∃ fault fault', x = .error fault ∧ y = .error fault'

theorem Together.of_eq {x y : Except Fault α} (h : x = y) : Together x y :=
  Or.inl h

theorem Together.bind {x y : Except Fault α} (h : Together x y) (f : α → Except Fault β) :
    Together (x >>= f) (y >>= f) := by
  rcases h with rfl | ⟨fault, fault', rfl, rfl⟩
  · exact .of_eq rfl
  · exact Or.inr ⟨fault, fault', rfl, rfl⟩

/-- What comes behind does not make two runs the same. -/
theorem Together.bind_eq_iff {x y : Except Fault α} (h : Together x y) (f : α → Except Fault β) :
    (x >>= f) = (y >>= f) ↔ x = y := by
  rcases h with rfl | ⟨fault, fault', rfl, rfl⟩
  · simp
  · simp [Bind.bind, Except.bind]

end Together

/-! ### Where a name is told -/

/-- The request is refused for want of a widget that is described by its type: it names none, one
is looked for, and the type has none or several. -/
structure Request.DescribesType (r : Request) (widgets : List Widget) (type : String) : Prop where
  unnamed : r.target = none
  given : r.widgetType = some type
  undecided : (widgets.filter fun w => w.type == type).length ≠ 1
  /-- Where a widget can be opened instead, none is looked for unless there are some; and where the
  action is not for a widget that has to exist, none is at all. -/
  sought : if r.spec.action = .openOrFocusWidget then ∃ w ∈ widgets, w.type = type
    else r.spec.targeted = true ∧ ¬ (r.spec.action = .updateWidgetSettings ∧ r.settings = [])

/-- Where not just one widget matches, the refusal tells what was looked for. -/
theorem single_eq_iff (h : widgets.length ≠ 1) :
    Resolution.single described widgets = Resolution.single described' widgets ↔
      described = described' := by
  refine ⟨fun hsame => ?_, fun hsame => hsame ▸ rfl⟩
  have hdetail : ∀ r r' : Refusal, (r.raise : Except Fault Widget) = r'.raise →
      r.detail = r'.detail :=
    fun r r' hraise => congrArg CommandError.detail (Fault.command.inj (Except.error.inj hraise))
  match widgets, h with
  | [], _ =>
      exact (String.append_right_inj _).mp
        (hdetail (.noMatch described) (.noMatch described') hsame)
  | v :: w :: rest, _ =>
      exact (String.append_right_inj _).mp (hdetail (.manyMatches (v :: w :: rest).length described)
        (.manyMatches (v :: w :: rest).length described') hsame)

/-- Where just one widget matches, or not, finding it stops under all names or under none. -/
theorem single_together :
    Together (Resolution.single described widgets) (Resolution.single described' widgets) := by
  match widgets with
  | [] => exact Or.inr ⟨_, _, rfl, rfl⟩
  | [_] => exact .of_eq rfl
  | _ :: _ :: _ => exact Or.inr ⟨_, _, rfl, rfl⟩

section Resolve

variable {ref : Option Target} {given : Option String}

theorem resolveNamed_together :
    Together (Resolution.resolveNamed names ref given widgets)
      (Resolution.resolveNamed names' ref given widgets) := by
  unfold Resolution.resolveNamed
  split
  · exact .of_eq rfl
  · exact single_together
  · exact .of_eq rfl

/-- Only where no widget is named and the type does not decide, the name of the type counts. -/
theorem resolveNamed_eq_iff :
    Resolution.resolveNamed names ref given widgets =
        Resolution.resolveNamed names' ref given widgets ↔
      ∀ type, ref = none → given = some type →
        (widgets.filter fun w => w.type == type).length ≠ 1 →
        names.displayName type = names'.displayName type := by
  cases ref with
  | some ref => simp [Resolution.resolveNamed]
  | none =>
      cases given with
      | none => simp [Resolution.resolveNamed]
      | some type =>
          simp only [Resolution.resolveNamed, Option.some.injEq, forall_const, forall_eq']
          by_cases hone : (widgets.filter fun w => w.type == type).length = 1
          · obtain ⟨w, hw⟩ := List.length_eq_one_iff.mp hone
            simp [hw, Resolution.single]
          · rw [single_eq_iff hone, String.append_left_inj]
            simp [hone]

end Resolve

/-! ### The steps that look for a widget -/

theorem openOrFocusNamed_together :
    Together (openOrFocusNamed names r type widgets) (openOrFocusNamed names' r type widgets) := by
  unfold openOrFocusNamed
  dsimp only
  split
  · exact .of_eq rfl
  · exact resolveNamed_together.bind _

theorem openOrFocusNamed_eq_iff :
    openOrFocusNamed names r type widgets = openOrFocusNamed names' r type widgets ↔
      (r.target = none → (widgets.filter fun w => w.type == type).length ≠ 1 →
        (∃ w ∈ widgets, w.type = type) → names.displayName type = names'.displayName type) := by
  have htwice : (widgets.filter fun w => w.type == type).filter (fun w => w.type == type) =
      widgets.filter fun w => w.type == type := by
    simp [List.filter_filter]
  unfold openOrFocusNamed
  dsimp only
  split
  · next hempty =>
      have hnone : ¬ ∃ w ∈ widgets, w.type = type := by
        simpa [List.filter_eq_nil_iff] using hempty
      exact iff_of_true rfl fun _ _ hsome => absurd hsome hnone
  · next hexisting =>
      have hsome : ∃ w ∈ widgets, w.type = type := by
        simpa [List.filter_eq_nil_iff] using hexisting
      rw [resolveNamed_together.bind_eq_iff, resolveNamed_eq_iff]
      constructor
      · intro h hunnamed hundecided _
        exact h type hunnamed rfl (by rwa [htwice])
      · intro h other hunnamed hsame hundecided
        obtain rfl := Option.some.inj hsame
        exact h hunnamed (by rwa [htwice] at hundecided) hsome

theorem targetedNamed_together :
    Together (targetedNamed names r widgets) (targetedNamed names' r widgets) := by
  unfold targetedNamed
  split
  · exact .of_eq rfl
  · exact resolveNamed_together.bind _

theorem targetedNamed_eq_iff :
    targetedNamed names r widgets = targetedNamed names' r widgets ↔
      (¬ (r.spec.action = .updateWidgetSettings ∧ r.settings = []) →
        ∀ type, r.target = none → r.widgetType = some type →
          (widgets.filter fun w => w.type == type).length ≠ 1 →
          names.displayName type = names'.displayName type) := by
  unfold targetedNamed
  split
  · next hnothing => simp [hnothing]
  · next hsomething =>
      rw [resolveNamed_together.bind_eq_iff, resolveNamed_eq_iff]
      simp [hsomething]

theorem locateNamed_together :
    Together (locateNamed names r widgets) (locateNamed names' r widgets) := by
  unfold locateNamed
  split
  · exact .of_eq rfl
  · exact .of_eq rfl
  · exact openOrFocusNamed_together
  · split
    · exact targetedNamed_together
    · exact .of_eq rfl

/-- **The name of a type counts exactly where a request is refused for want of a widget that is
described by it.** -/
theorem locateNamed_eq_iff :
    locateNamed names r widgets = locateNamed names' r widgets ↔
      ∀ type, r.DescribesType widgets type →
        names.displayName type = names'.displayName type := by
  unfold locateNamed
  split
  · next htype =>
      exact iff_of_true rfl fun type h => absurd (htype.symm.trans h.given) (by simp)
  · next htype =>
      exact iff_of_true rfl fun type h => absurd (htype.symm.trans h.given) (by simp)
  · next type haction htype =>
      rw [openOrFocusNamed_eq_iff]
      constructor
      · intro h other hother
        obtain rfl : type = other := by simpa [htype] using hother.given
        have hsought := hother.sought
        rw [if_pos haction] at hsought
        exact h hother.unnamed hother.undecided hsought
      · intro h hunnamed hundecided hsought
        exact h type ⟨hunnamed, htype, hundecided, by rwa [if_pos haction]⟩
  · next hopen =>
      have haction : ∀ {type}, r.widgetType = some type → r.spec.action ≠ .openOrFocusWidget :=
        fun htype haction => hopen _ haction htype
      split
      · next htargeted =>
          rw [targetedNamed_eq_iff]
          constructor
          · intro h type hdescribes
            have hsought := hdescribes.sought
            rw [if_neg (haction hdescribes.given)] at hsought
            exact h hsought.2 type hdescribes.unnamed hdescribes.given hdescribes.undecided
          · intro h hsomething type hunnamed htype hundecided
            exact h type ⟨hunnamed, htype, hundecided,
              by rw [if_neg (haction htype)]; exact ⟨htargeted, hsomething⟩⟩
      · next huntargeted =>
          refine iff_of_true rfl fun type hdescribes => ?_
          have hsought := hdescribes.sought
          rw [if_neg (haction hdescribes.given)] at hsought
          exact absurd hsought.1 huntargeted

/-! ### The whole -/

/-- **Two runs that differ in the names alone come to the same exactly if these agree on the type
that the answer is refused by**, if it is refused by one. -/
theorem validateNamed_eq_iff (answer : Answer) (utterance : String) (widgets : List Widget)
    (vocabulary : Vocabulary) (catalog names names' : Catalog) :
    validateNamed .standard answer utterance widgets vocabulary catalog =
        validate answer utterance widgets vocabulary catalog ∧
      (validateNamed names answer utterance widgets vocabulary catalog =
          validateNamed names' answer utterance widgets vocabulary catalog ↔
        ∀ r type, readRequest answer vocabulary catalog = .ok r → r.DescribesType widgets type →
          names.displayName type = names'.displayName type) := by
  refine ⟨validateNamed_standard .., ?_⟩
  unfold validateNamed
  cases readRequest answer vocabulary catalog with
  | error fault => exact iff_of_true rfl (by simp)
  | ok r =>
      have htogether : Together (locateNamed names r widgets) (locateNamed names' r widgets) :=
        locateNamed_together
      have hrun := htogether.bind_eq_iff fun located =>
        checkSettings located catalog >>= fun checked =>
          keyWarnings checked utterance catalog >>= fun warnings =>
            .ok (finish checked warnings catalog)
      rw [locateNamed_eq_iff] at hrun
      refine hrun.trans ⟨fun h request type hr => ?_, fun h type => h r type rfl⟩
      obtain rfl := Except.ok.inj hr
      exact h type

/-- The clock by another name than the standard one. -/
def wallClock : Catalog :=
  [{ type := "clock", displayName := "Wall Clock", defaultTitle := "New Clock"
     description := "A clock for the wall." }]

/-- An answer that removes a clock, whichever it is. -/
def clockless : Answer :=
  [("action", .str "removeWidget"), ("widgetType", .str "clock")]

/-- The clock is described by a name that the catalog does not have. -/
theorem validate_foreign_name :
    wallClock.displayName "clock" = "Wall Clock" ∧
      validate clockless "remove the clock" [] .standard wallClock =
        (Refusal.noMatch "Clock widget").raise ∧
      validateNamed wallClock clockless "remove the clock" [] .standard wallClock =
        (Refusal.noMatch "Wall Clock widget").raise ∧
      validate clockless "remove the clock" [] .standard wallClock ≠
        validateNamed wallClock clockless "remove the clock" [] .standard wallClock := by
  decide +kernel

end Validation

end CommandBar
