/-
What opening a widget of a type comes to.

The decision is made twice.  Validation counts the widgets of the type: if there is
none the command has no target, and otherwise its target is the one of them that is
meant.  The handler then looks at the target only, and adds without one and focuses
with one.  So the two agree as soon as a command for opening is known to come about
in these two ways, and the rest is what adding and focusing do to a dashboard.

That no wrong type is focused is a matter of where the target is looked for, which
is among the widgets of the type and not on the whole dashboard.  That nothing is
focused by chance is the refusal of a type with several widgets and no reference.
-/
import CommandBar.Proofs.Classification
import CommandBar.Proofs.Target
import CommandBar.Proofs.Wire

namespace CommandBar

open Json Validation Resolution

/-- The answer asks for a widget of the type to be opened or focused. -/
structure Answer.Opening (answer : Answer) (type : String) : Prop where
  action : Value.member answer "action" = .str "openOrFocusWidget"
  type : answer.text "widgetType" = .ok (some type)

/-! ### The command -/

namespace Validation

section Opening

variable {answer : Answer} {utterance : String} {widgets : List Widget} {vocabulary : Vocabulary}
  {catalog : Catalog} {b : Blueprint} {r : Request} {c : Command}

/-- The widgets of a type. -/
def ofType (type : String) (widgets : List Widget) : List Widget :=
  widgets.filter fun w => w.type == type

theorem mem_ofType {type : String} {w : Widget} :
    w ∈ ofType type widgets ↔ w ∈ widgets ∧ w.type = type := by
  simp [ofType]

/-- What is read from an answer that asks for opening. -/
theorem Request.Reads.opening (hreads : r.Reads answer vocabulary catalog)
    (hopening : answer.Opening b.type) (hb : catalog.find? b.type = some b) :
    r.spec.action = .openOrFocusWidget ∧ r.widgetType = some b.type := by
  constructor
  · have hnamed : Action.ofName? "openOrFocusWidget" = some .openOrFocusWidget := by decide
    have haction := hreads.action
    simp only [Answer.action, hopening.action, hnamed] at haction
    split at haction
    · exact absurd haction (Refusal.raise_ne_ok _ _)
    · next spec hspec =>
        simp only [Except.ok.injEq] at haction
        subst haction
        simpa using List.find?_some hspec
  · have htype := hreads.widgetType
    simp only [Answer.widgetType, hopening.type, bind, Except.bind, hb, Except.ok.injEq] at htype
    exact htype.symm

/-- Whether it focuses or opens, the command is what the request asks for. -/
theorem openOrFocus_keeps {type : String} (h : openOrFocus r type widgets = .ok c) :
    c.action = r.spec.action ∧ c.widgetType = r.widgetType ∧ c.patch = r.settings := by
  have hpatch : r.command.patch = r.settings := by
    by_cases hempty : r.settings = []
    · simp [Command.patch, Request.command, hempty]
    · simp [Command.patch, Request.command, hempty]
  rcases openOrFocus_cases h with ⟨w, -, rfl⟩ | ⟨-, -, rfl⟩
  · exact ⟨rfl, rfl, hpatch⟩
  · exact ⟨rfl, rfl, hpatch⟩

/-- The two ways in which a command for opening comes about. -/
inductive Opens (answer : Answer) (b : Blueprint) (widgets : List Widget) (c : Command) : Prop
  /-- One of the widgets of the type is meant. -/
  | focus {ref : Option Target} {w : Widget} (named : answer.target = .ok ref)
      (means : Means (ofType b.type widgets) ref (some b.type) w)
      (target : c.target = some w.target)
  /-- There is none, and no id is named. -/
  | add {called title : Option String} (fresh : ∀ v ∈ widgets, v.type ≠ b.type)
      (unnamed : answer.text "targetWidgetId" = .ok none)
      (named : answer.text "targetWidgetTitle" = .ok called)
      (titled : answer.text "title" = .ok title)
      (target : c.target = none) (title : c.title = title.or called)

/-- A valid command for opening, its settings checked against the blueprint of the type. -/
theorem validate_opens (hopening : answer.Opening b.type) (hb : catalog.find? b.type = some b)
    (h : validate answer utterance widgets vocabulary catalog = .ok c) :
    c.action = .openOrFocusWidget ∧ c.widgetType = some b.type ∧
      (∃ patch, answer.settings = .ok patch ∧ Setting.check b patch = .ok c.patch) ∧
      Opens answer b widgets c := by
  obtain ⟨r, found, hread, hlocate, hcheck, haction, htype, htarget, htitle⟩ := validate_located h
  have hreads := readRequest_reads hread
  obtain ⟨hspec, hnamed⟩ := hreads.opening hopening hb
  have hopen : openOrFocus r b.type widgets = .ok found := by
    simpa only [locate, hspec, hnamed] using hlocate
  obtain ⟨hkept, hkeptType, hkeptPatch⟩ := openOrFocus_keeps hopen
  have hsets : found.action.setsSettings = true := by
    rw [hkept, hspec]
    rfl
  have hknown : catalog.ofType? found.widgetType = some b := by
    rw [hkeptType, hnamed]
    exact hb
  have hchecked := checkSettings_patch hsets hknown hcheck
  change Setting.check b found.patch = .ok c.patch at hchecked
  rw [hkeptPatch] at hchecked
  refine ⟨haction.trans (hkept.trans hspec), htype.trans (hkeptType.trans hnamed),
    ⟨_, hreads.settings, hchecked⟩, ?_⟩
  obtain ⟨hidRead, htitleRead⟩ := Answer.target_ok hreads.target
  rcases openOrFocus_cases hopen with ⟨w, hw, rfl⟩ | ⟨hfresh, hunnamed, rfl⟩
  · exact .focus hreads.target ((resolve_eq_ok_iff _ _ _ w).mp hw) htarget
  · have hid : r.target.bind (·.id) = none := by
      cases href : r.target with
      | none => rfl
      | some ref => exact hunnamed ref href
    exact .add hfresh (hid ▸ hidRead) htitleRead hreads.title htarget htitle

/-- Where several widgets are of the type and none is named, no command is valid. -/
theorem validate_opens_several (hopening : answer.Opening b.type)
    (hb : catalog.find? b.type = some b) {v w : Widget} (hv : v ∈ widgets) (hw : w ∈ widgets)
    (hne : v ≠ w) (hvtype : v.type = b.type) (hwtype : w.type = b.type)
    (hunnamed : ∀ ref, answer.target ≠ .ok (some ref)) :
    validate answer utterance widgets vocabulary catalog ≠ .ok c := by
  intro h
  obtain ⟨-, -, -, hopens⟩ := validate_opens hopening hb h
  cases hopens with
  | @focus ref x named means target =>
      cases ref with
      | some ref => exact hunnamed ref named
      | none =>
          cases means with
          | byType only =>
              have hvx : v = x := only.eq_of_mem (mem_ofType.mpr ⟨hv, hvtype⟩) hvtype
              have hwx : w = x := only.eq_of_mem (mem_ofType.mpr ⟨hw, hwtype⟩) hwtype
              exact hne (hvx.trans hwx.symm)
  | add fresh unnamed named titled target title => exact fresh v hv hvtype

end Opening

end Validation

/-! ### The dashboard -/

/-- A widget of the type is focused, with the checked settings put over its own. -/
structure Focuses (answer : Answer) (b : Blueprint) (d d' : Dashboard) : Prop where
  /-- No widget has come or gone. -/
  ids : d'.ids = d.ids
  /-- Exactly one widget of the type has the focus. -/
  one : ∃! v, v ∈ d'.widgets ∧ v.type = b.type ∧ d'.focused = some v.id
  /-- It is the one of the type that is meant, and nothing else has changed. -/
  patched : ∃ ref patch checked front w back, answer.target = .ok ref ∧
    Means (ofType b.type d.widgets) ref (some b.type) w ∧ answer.settings = .ok patch ∧
    Setting.check b patch = .ok checked ∧ d.Around front w back ∧
    d' = { d with widgets := front ++ w.override checked :: back, focused := some w.id }

/-- A new widget of the type is put behind the others and focused. -/
structure Adds (answer : Answer) (b : Blueprint) (d d' : Dashboard) : Prop where
  /-- No id is named. -/
  unnamed : answer.text "targetWidgetId" = .ok none
  /-- Its title is the one that is given, or else the one that it is called by, or else that of
  the blueprint, and its settings are the checked ones over the defaults. -/
  added : ∃ called title patch checked w n, answer.text "targetWidgetTitle" = .ok called ∧
    answer.text "title" = .ok title ∧ answer.settings = .ok patch ∧
    Setting.check b patch = .ok checked ∧ w.type = b.type ∧ w.id ∉ d.ids ∧
    w.title = (title.or called).getD b.defaultTitle ∧
    w.settings = Fields.override b.defaults checked ∧
    d' = { d with widgets := d.widgets ++ [w], nextNumber := n, focused := some w.id }

section Effect

variable {answer : Answer} {b : Blueprint} {c c' : Command} {host : Host}

/-- Focusing a widget leaves the ids, and the focus is on that one only. -/
theorem Dashboard.Around.focus_one {d : Dashboard} {front back : List Widget} {w : Widget}
    (haround : d.Around front w back) (patch : Fields Value) :
    let d' := { d with widgets := front ++ w.override patch :: back, focused := some w.id }
    d'.ids = d.ids ∧ ∃! v, v ∈ d'.widgets ∧ v.type = w.type ∧ d'.focused = some v.id := by
  intro d'
  refine ⟨by simp [d', ids, haround.widgets], w.override patch, ?_, ?_⟩
  · simp [d']
  · rintro v ⟨hv, -, hfocused⟩
    have hid : v.id = w.id := (Option.some.inj hfocused).symm
    rcases List.mem_append.mp hv with hfront | hmiddle
    · exact absurd hid (haround.alone v (List.mem_append_left _ hfront))
    · rcases List.mem_cons.mp hmiddle with rfl | hback
      · rfl
      · exact absurd hid (haround.alone v (List.mem_append_right _ hback))

/-- A command for opening that is applied has asked for its change, which has been made. -/
theorem Dispatcher.standard_opened (haction : c.action = .openOrFocusWidget)
    (h : (standard.dispatch c host).1 = .applied c') :
    ∃ change id, Handler.openOrFocus.change? c = .ok (some change) ∧
      host.dashboard.apply change = .ok ((standard.dispatch c host).2.dashboard, id) := by
  rw [standard_dispatch, haction, Action.handler] at h ⊢
  obtain ⟨-, ⟨hnone, -⟩ | hchange⟩ := run_applied h
  · unfold Handler.change? at hnone
    cases htarget : c.target with
    | none => simp [htarget] at hnone
    | some target => simp [htarget] at hnone
  · exact hchange

theorem Validation.Opens.focuses (hopens : Opens answer b host.widgets c)
    (hdistinct : host.dashboard.ids.Nodup) {patch : Fields Value}
    (hsettings : answer.settings = .ok patch) (hchecked : Setting.check b patch = .ok c.patch)
    (haction : c.action = .openOrFocusWidget) {v : Widget} (hv : v ∈ host.widgets)
    (hvtype : v.type = b.type) (h : (Dispatcher.standard.dispatch c host).1 = .applied c') :
    Focuses answer b host.dashboard (Dispatcher.standard.dispatch c host).2.dashboard := by
  obtain ⟨change, id, hchange, hmade⟩ := Dispatcher.standard_opened haction h
  generalize (Dispatcher.standard.dispatch c host).2.dashboard = d' at hmade ⊢
  cases hopens with
  | @focus ref w named means target =>
      obtain ⟨hmem, hwtype⟩ := mem_ofType.mp means.mem
      obtain ⟨front, back, haround⟩ := Dashboard.exists_around hdistinct hmem
      simp only [Handler.change?, target, Except.ok.injEq, Option.some.injEq] at hchange
      rw [← hchange, Widget.target, haround.apply_focus, c.patch_passed, Except.ok.injEq,
        Prod.mk.injEq] at hmade
      obtain ⟨rfl, -⟩ := hmade
      obtain ⟨hids, hone⟩ := haround.focus_one c.patch
      exact ⟨hids, hwtype ▸ hone, ref, patch, c.patch, front, w, back, named, means, hsettings,
        hchecked, haround, rfl⟩
  | add fresh unnamed named titled target title => exact absurd hvtype (fresh v hv)

theorem Validation.Opens.adds (hopens : Opens answer b host.widgets c)
    (hb : host.dashboard.catalog.find? b.type = some b) {patch : Fields Value}
    (hsettings : answer.settings = .ok patch) (hchecked : Setting.check b patch = .ok c.patch)
    (haction : c.action = .openOrFocusWidget) (htype : c.widgetType = some b.type)
    (hfresh : ∀ v ∈ host.widgets, v.type ≠ b.type)
    (h : (Dispatcher.standard.dispatch c host).1 = .applied c') :
    Adds answer b host.dashboard (Dispatcher.standard.dispatch c host).2.dashboard := by
  obtain ⟨change, id, hchange, hmade⟩ := Dispatcher.standard_opened haction h
  generalize (Dispatcher.standard.dispatch c host).2.dashboard = d' at hmade ⊢
  cases hopens with
  | focus named means target =>
      obtain ⟨hmem, hwtype⟩ := mem_ofType.mp means.mem
      exact absurd hwtype (hfresh _ hmem)
  | @add called title fresh unnamed hcalled htitled target htitle =>
      simp only [Handler.change?, target, Except.ok.injEq, Option.some.injEq] at hchange
      have hknown : host.dashboard.catalog.ofType? c.widgetType = some b := by
        rw [htype]
        exact hb
      obtain ⟨next, id', hnext, heffect⟩ := addition_effect (Or.inr haction) hknown
      rw [← hchange, hnext, Except.ok.injEq, Prod.mk.injEq] at hmade
      obtain ⟨rfl, -⟩ := hmade
      -- a title that is read is not empty, so the second look at it changes nothing
      have hgiven : (if isGiven c.title then c.title.getD "" else b.defaultTitle) =
          (title.or called).getD b.defaultTitle := by
        rw [htitle]
        cases hor : title.or called with
        | none => rfl
        | some s =>
            have hs : s ≠ "" := by
              rcases Option.or_eq_some_iff.mp hor with rfl | ⟨-, rfl⟩
              · exact (Answer.text_named htitled).1
              · exact (Answer.text_named hcalled).1
            simp only [isGiven, bne_iff_ne, ne_eq, hs, not_false_eq_true, if_true, Option.getD_some]
      cases heffect with
      | @added w b' n action type known id fresh' title' settings =>
          have hwtype : w.type = b.type := by simpa [htype, eq_comm] using type
          have hsame : b' = b := by simpa [hwtype, hb, eq_comm] using known
          subst hsame
          exact ⟨unnamed, called, title, patch, c.patch, w, n + 1, hcalled, htitled, hsettings,
            hchecked, hwtype, fresh', title'.trans hgiven, settings, rfl⟩
      | focused action around target' type => simp [target] at target'
      | updated action => simp [haction] at action
      | removed action => simp [haction] at action
      | nothing action => simp [haction] at action

end Effect

namespace Interpreter

/-- What comes of an answer that asks for a widget of the type. -/
structure Opened (answer : Answer) (b : Blueprint) (host : Host) (done : Interpretation) :
    Prop where
  /-- If there is a widget of the type, one of them is focused. -/
  focuses : ∀ c, done.result = .ok (some (.applied c)) → (∃ v ∈ host.widgets, v.type = b.type) →
    Focuses answer b host.dashboard done.host.dashboard
  /-- If there is none, one is added. -/
  adds : ∀ c, done.result = .ok (some (.applied c)) → (∀ v ∈ host.widgets, v.type ≠ b.type) →
    Adds answer b host.dashboard done.host.dashboard
  /-- If there are several and none is named, nothing is done. -/
  several : (∃ v ∈ host.widgets, ∃ w ∈ host.widgets, v ≠ w ∧ v.type = b.type ∧ w.type = b.type) →
    (∀ ref, answer.target ≠ .ok (some ref)) →
    (∀ c, done.result ≠ .ok (some (.applied c))) ∧ done.host = host

/-- **Opening never duplicates, never focuses the wrong type and never guesses.** -/
theorem interpret_opens {u : Utterance} (live : Liveness) {oracle : Query → Reply} {host : Host}
    {answer : Answer} {b : Blueprint} (hdistinct : host.dashboard.ids.Nodup)
    (hanswers : (ofCatalog host.dashboard.catalog).Answers u oracle host answer)
    (hopening : answer.Opening b.type) (hb : host.dashboard.catalog.find? b.type = some b) :
    Opened answer b host ((ofCatalog host.dashboard.catalog).interpret u live oracle host).2 := by
  rcases hanswers.dispatches live with ⟨hnone, hhost⟩ | ⟨c, hvalid, happly⟩
  · exact ⟨fun c hc => absurd hc (hnone c), fun c hc => absurd hc (hnone c),
      fun _ _ => ⟨hnone, hhost⟩⟩
  · rw [happly]
    obtain ⟨haction, htype, ⟨patch, hsettings, hchecked⟩, hopens⟩ :=
      validate_opens hopening hb hvalid
    constructor
    · rintro c' hc' ⟨v, hv, hvtype⟩
      rw [ofCatalog_apply_result, Except.ok.injEq, Option.some.injEq] at hc'
      exact hopens.focuses hdistinct hsettings hchecked haction hv hvtype hc'
    · intro c' hc' hfresh
      rw [ofCatalog_apply_result, Except.ok.injEq, Option.some.injEq] at hc'
      exact hopens.adds hb hsettings hchecked haction htype hfresh hc'
    · rintro ⟨v, hv, w, hw, hne, hvtype, hwtype⟩ hunnamed
      exact absurd hvalid (validate_opens_several hopening hb hv hw hne hvtype hwtype hunnamed)

/-- An answer that asks for a clock with hands. -/
def analogClock : Answer :=
  [("action", .str "openOrFocusWidget"), ("widgetType", .str "clock"),
    ("initialSettings", .obj [("displayType", .str "Analog")])]

/-- The clock that is there is focused, and gets the hands. -/
theorem interpret_opens_clock :
    ∃ b, clockHost.dashboard.ids.Nodup ∧
      (ofCatalog clockHost.dashboard.catalog).Answers ⟨"show me a clock", "typed"⟩
        (fun _ => .sent (.str (Json.render (.obj analogClock)))) clockHost analogClock ∧
      analogClock.Opening b.type ∧ clockHost.dashboard.catalog.find? b.type = some b ∧
      Focuses analogClock b clockHost.dashboard ((ofCatalog clockHost.dashboard.catalog).interpret
        ⟨"show me a clock", "typed"⟩ []
        (fun _ => .sent (.str (Json.render (.obj analogClock)))) clockHost).2.host.dashboard := by
  have hdistinct : clockHost.dashboard.ids.Nodup := by decide
  have hwritable : Writable (.obj analogClock) := by
    refine .obj (by decide) ?_
    simp only [analogClock, List.forall_mem_cons]
    exact ⟨.str _, .str _, .obj (by decide) (by simpa using .str _), by simp⟩
  have hanswers : (ofCatalog clockHost.dashboard.catalog).Answers ⟨"show me a clock", "typed"⟩
      (fun _ => .sent (.str (Json.render (.obj analogClock)))) clockHost analogClock :=
    answers_of_payload _ _ (by decide) (fun _ => rfl) (Reply.payload_render hwritable)
  obtain ⟨b, hb, htype⟩ : ∃ b, clockHost.dashboard.catalog.find? b.type = some b ∧
      b.type = "clock" := by
    cases hfind : clockHost.dashboard.catalog.find? "clock" with
    | none => exact absurd hfind (by decide +kernel)
    | some b =>
        have hb := (Catalog.find?_mem hfind).2
        exact ⟨b, hb ▸ hfind, hb⟩
  have hopening : analogClock.Opening b.type :=
    ⟨by decide +kernel, by rw [htype]; decide +kernel⟩
  have hopened := interpret_opens [] hdistinct hanswers hopening hb
  let c : Command := {
    action := .openOrFocusWidget
    feedback := "Focusing Clock..."
    widgetType := some "clock"
    target := some ⟨some "clock-1", some "Clock"⟩
    settings := some [("displayType", .str "analog")] }
  have hvalid : validate analogClock "show me a clock" clockHost.widgets .standard
      clockHost.dashboard.catalog = .ok c := by decide +kernel
  have hdispatch : (Dispatcher.standard.dispatch c clockHost).1 = .applied c := by
    decide +kernel
  have hlive : Liveness.Open [] := by simp [Liveness.Open]
  have happlied := interpret_valid hanswers hlive hvalid
  have hresult : ((ofCatalog clockHost.dashboard.catalog).interpret ⟨"show me a clock", "typed"⟩ []
      (fun _ => .sent (.str (Json.render (.obj analogClock)))) clockHost).2.result =
        .ok (some (.applied c)) := by
    rw [happlied, ofCatalog_apply_result, hdispatch]
  have hthere : ∃ v ∈ clockHost.widgets, v.type = b.type := by
    rw [htype]
    decide
  exact ⟨b, hdistinct, hanswers, hopening, hb, hopened.focuses c hresult hthere⟩

end Interpreter

end CommandBar
