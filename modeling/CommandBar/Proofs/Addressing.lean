/-
Every widget on the dashboard can be addressed.

The prompt lists the ids and the titles of the widgets, and the oracle sends them back.
On the way back a field is trimmed, and a blank one counts as absent, so a widget under
a name that trimming changes could never be reached again.  None gets such a name.  An id
is a type of the catalog with a number behind it, and a title is the default one of a
blueprint or has been read from a field itself, where it was trimmed.  `Addressable` is
that invariant, and a row of utterances keeps it because one command does.

The ids are distinct, so the id of a widget means that widget alone.  Titles need not be:
one that another widget has too, up to case, is refused.
-/
import CommandBar.Proofs.Classification
import CommandBar.Proofs.Run
import CommandBar.Proofs.Trim
import CommandBar.Proofs.Wire

namespace CommandBar

open Json Validation

/-! ### Names that are kept -/

/-- The types and the default titles of the catalog are names. -/
def Catalog.Named (catalog : Catalog) : Prop :=
  ∀ b ∈ catalog, Text.Named b.type ∧ Text.Named b.defaultTitle

theorem Catalog.standard_named : Catalog.standard.Named := by
  unfold Named
  decide +kernel

open Text in
/-- An id is a name, if the type in front of it is one. -/
theorem Dashboard.numberedId_named {type : String} (h : Named type) (n : Nat) :
    Named (numberedId type n) := by
  have hfront : Trimmed type.toList := trim_eq_self_iff.mp h.2
  have hdigit : ∀ c ∈ Nat.toDigits 10 n, isBlank c = false := by
    intro c hc
    have hc' : c.isDigit = true := Nat.isDigit_of_mem_toDigits (by decide) (by decide) hc
    exact Reply.isBlank_of_isTagChar (by simp [Reply.isTagChar, Char.isAlphanum, hc'])
  have hne : type.toList ≠ [] := by simpa using h.1
  refine ⟨by simp [numberedId], trim_eq_self_iff.mpr ⟨?_, ?_⟩⟩
  · intro c hc
    rw [numberedId_toList, List.head?_append_of_ne_nil _ hne] at hc
    exact hfront.front c hc
  · intro c hc
    rw [numberedId_toList, List.getLast?_append_of_ne_nil _ (by simp),
      List.getLast?_cons_of_ne_nil Nat.toDigits_ne_nil] at hc
    exact hdigit c (List.mem_of_getLast? hc)

namespace Answer

variable {answer : Answer}

theorem target_title {ref : Target} (h : answer.target = .ok (some ref)) :
    ∀ s, ref.title = some s → Text.Named s := by
  intro s hs
  have htitle := (target_ok h).2
  rw [Option.bind_some, hs] at htitle
  exact text_named htitle

end Answer

/-! ### Titles of commands -/

namespace Validation

theorem readRequest_named {answer : Answer} {vocabulary : Vocabulary} {catalog : Catalog}
    {r : Request} (h : readRequest answer vocabulary catalog = .ok r) :
    (∀ s, r.title = some s → Text.Named s) ∧
      ∀ ref, r.target = some ref → ∀ s, ref.title = some s → Text.Named s := by
  have hreads := readRequest_reads h
  constructor
  · intro s hs
    exact Answer.text_named (hs ▸ hreads.title)
  · intro ref href
    exact Answer.target_title (href ▸ hreads.target)

/-- The title of a valid command is a name. -/
theorem validate_title {answer : Answer} {utterance : String} {widgets : List Widget}
    {vocabulary : Vocabulary} {catalog : Catalog} {c : Command}
    (h : validate answer utterance widgets vocabulary catalog = .ok c) :
    ∀ s, c.title = some s → Text.Named s := by
  obtain ⟨r, hread, -, hkept⟩ := validate_reads h
  obtain ⟨htitle, htarget⟩ := readRequest_named hread
  intro s hs
  rcases hkept s hs with hown | ⟨ref, href, hcalled⟩
  · exact htitle s hown
  · exact htarget ref href s hcalled

end Validation

/-! ### The invariant -/

/-- Every widget has an id and a title that are read from a field as they are. -/
def Dashboard.Addressable (d : Dashboard) : Prop :=
  ∀ w ∈ d.widgets, Text.Named w.id ∧ Text.Named w.title

/-- A command with a name for its title, or without one, keeps every widget addressable. -/
theorem Command.Effect.addressable {c : Command} {d d' : Dashboard} (h : c.Effect d d')
    (hd : d.Addressable) (hcatalog : d.catalog.Named)
    (htitle : ∀ s, c.title = some s → Text.Named s) : d'.Addressable := by
  have hoverridden : ∀ {front back : List Widget} {w v : Widget}, d.Around front w back →
      v ∈ front ++ w.override c.patch :: back → Text.Named v.id ∧ Text.Named v.title := by
    intro front back w v haround hv
    rcases List.mem_append.mp hv with hfront | hv
    · exact hd v (haround.mem_other (List.mem_append_left _ hfront))
    · rcases List.mem_cons.mp hv with rfl | hback
      · exact hd w haround.mem
      · exact hd v (haround.mem_other (List.mem_append_right _ hback))
  cases h with
  | @added w b n action type known id fresh title settings =>
      intro v hv
      rcases List.mem_append.mp hv with hold | hnew
      · exact hd v hold
      · obtain rfl : v = w := by simpa using hnew
        obtain ⟨hb, hbtype⟩ := Catalog.find?_mem known
        obtain ⟨htype, hdefault⟩ := hcatalog b hb
        refine ⟨id ▸ Dashboard.numberedId_named (hbtype ▸ htype) n, ?_⟩
        rw [title]
        cases hgiven : c.title with
        | none => exact hdefault
        | some s =>
            have hs : Text.Named s := htitle s hgiven
            simpa [isGiven, hs.1] using hs
  | focused action around target type => exact fun v hv => hoverridden around hv
  | updated action around target type => exact fun v hv => hoverridden around hv
  | removed action around target type => exact fun v hv => hd v (around.mem_other hv)
  | nothing action => exact hd

namespace Interpreter

section Run

variable {catalog : Catalog} {host : Host}

/-- An utterance keeps every widget addressable. -/
theorem step_addressable (hnamed : catalog.Named) (hcatalog : host.dashboard.catalog = catalog)
    (hdistinct : host.dashboard.ids.Nodup) (h : host.dashboard.Addressable) (x : Exchange) :
    ((ofCatalog catalog).step host x).dashboard.Addressable := by
  rcases step_effect hdistinct x with hsame | ⟨answer, c, hvalid, heffect⟩
  · rw [hsame]
    exact h
  · exact heffect.addressable h (hcatalog ▸ hnamed) (validate_title hvalid)

/-- So does a row of them. -/
theorem run_addressable (hsound : ∀ b ∈ catalog, b.Sound) (hnamed : catalog.Named)
    {exchanges : List Exchange} :
    ∀ {host : Host}, host.dashboard.catalog = catalog → host.dashboard.WellFormed →
      host.dashboard.Addressable →
      ((ofCatalog catalog).run host exchanges).dashboard.Addressable := by
  induction exchanges with
  | nil => exact fun _ _ h => h
  | cons x rest ih =>
      intro host hcatalog hwf h
      obtain ⟨hcatalog', hwf'⟩ := step_wellFormed hsound hcatalog hwf x
      exact ih hcatalog' hwf' (step_addressable hnamed hcatalog hwf.distinct h x)

end Run

end Interpreter

/-! ### Asking for the removal of a widget -/

namespace Answer

/-- The answer asks for the removal of the widget that one field names, and says nothing else. -/
structure Removal (answer : Answer) (field name : String) : Prop where
  action : Value.member answer "action" = .str "removeWidget"
  named : Value.member answer field = .str name
  rest : ∀ other, other ≠ "action" → other ≠ field → Value.member answer other = .null

theorem removal_pair {field : String} (hfield : field ≠ "action") (name : String) :
    Removal [("action", .str "removeWidget"), (field, .str name)] field name := by
  refine ⟨rfl, ?_, ?_⟩
  · simp [Value.member, Fields.get?, hfield.symm]
  · intro other haction hother
    simp [Value.member, Fields.get?, haction.symm, hother.symm]

variable {answer : Answer} {name : String}

theorem Removal.target_id (h : answer.Removal "targetWidgetId" name) (hname : Text.Named name) :
    answer.target = .ok (some ⟨some name, none⟩) := by
  have htitle := h.rest "targetWidgetTitle" (by decide) (by decide)
  simp only [target, text_of_named hname h.named, text_of_null htitle]
  rfl

theorem Removal.target_title (h : answer.Removal "targetWidgetTitle" name)
    (hname : Text.Named name) : answer.target = .ok (some ⟨none, some name⟩) := by
  have hid := h.rest "targetWidgetId" (by decide) (by decide)
  simp only [target, text_of_named hname h.named, text_of_null hid]
  rfl

end Answer

/-- The command to remove a widget, before it has words. -/
def Command.removing (w : Widget) : Command where
  action := .removeWidget
  widgetType := some w.type
  target := some w.target

namespace Validation

variable {answer : Answer} {field name : String} {widgets : List Widget} {ref : Target}

theorem readRequest_removal (h : answer.Removal field name)
    (hfield : field = "targetWidgetId" ∨ field = "targetWidgetTitle")
    (htarget : answer.target = .ok (some ref)) (catalog : Catalog) :
    ∃ spec, spec.action = .removeWidget ∧ spec.targeted = true ∧
      readRequest answer .standard catalog = .ok
        { spec, widgetType := none, settings := [], target := some ref, feedback := none,
          title := none, contextualHint := none } := by
  have hrest : ∀ other, other ≠ "action" → other ≠ "targetWidgetId" →
      other ≠ "targetWidgetTitle" → Value.member answer other = .null := by
    intro other haction hid htitle
    rcases hfield with rfl | rfl
    · exact h.rest other haction hid
    · exact h.rest other haction htitle
  have hnone : ∀ other, other ≠ "action" → other ≠ "targetWidgetId" →
      other ≠ "targetWidgetTitle" → answer.text other = .ok none :=
    fun other haction hid htitle => Answer.text_of_null (hrest other haction hid htitle)
  obtain ⟨spec, hspec⟩ : ∃ spec, Vocabulary.standard.find? .removeWidget = some spec := ⟨_, rfl⟩
  have hread : answer.action .standard = .ok spec := by
    have hnamed : Action.ofName? "removeWidget" = some .removeWidget := by decide
    simp only [Answer.action, h.action, hnamed, hspec]
  have hwidget : answer.widgetType catalog = .ok none := by
    simp only [Answer.widgetType, hnone "widgetType" (by decide) (by decide) (by decide)]
    rfl
  have hgiven : answer.settings = .ok [] := by
    simp only [Answer.settings, Answer.settingsObject,
      hrest "initialSettings" (by decide) (by decide) (by decide),
      hnone "settingName" (by decide) (by decide) (by decide)]
    rfl
  refine ⟨spec, ?_, ?_, ?_⟩
  · exact Option.some.inj hspec ▸ rfl
  · exact Option.some.inj hspec ▸ rfl
  · simp only [readRequest, hread, hwidget, hgiven, htarget,
      hnone "feedbackToUser" (by decide) (by decide) (by decide),
      hnone "title" (by decide) (by decide) (by decide),
      hnone "contextualHint" (by decide) (by decide) (by decide)]
    rfl

/-- What becomes of an answer that asks for a removal is settled by which widget it means. -/
theorem validate_removal (h : answer.Removal field name)
    (hfield : field = "targetWidgetId" ∨ field = "targetWidgetTitle")
    (htarget : answer.target = .ok (some ref)) (utterance : String) (catalog : Catalog) :
    validate answer utterance widgets .standard catalog =
      Resolution.single ref.describe (Resolution.candidates ref widgets) >>= fun w =>
        .ok (finish (.removing w) [] catalog) := by
  obtain ⟨spec, hspec, htargeted, hread⟩ := readRequest_removal h hfield htarget catalog
  have hlocated : located answer widgets .standard catalog =
      Resolution.single ref.describe (Resolution.candidates ref widgets) >>= fun w =>
        .ok (.removing w) := by
    rw [located, hread]
    change locate _ widgets = _
    simp only [locate, hspec, htargeted, if_true, targeted, Request.command, Resolution.resolve,
      reduceCtorEq, false_and, if_false]
    rfl
  rw [validate_eq, hlocated]
  cases Resolution.single ref.describe (Resolution.candidates ref widgets) with
  | error fault => rfl
  | ok w => rfl

end Validation

/-! ### Which widget a name means -/

section Meaning

variable {d : Dashboard} {front back : List Widget} {w : Widget}

/-- A test that no other widget passes finds the widget alone. -/
theorem Dashboard.Around.filter_eq (h : d.Around front w back) {p : Widget → Bool} (hw : p w = true)
    (halone : ∀ v ∈ d.widgets, v ≠ w → p v = false) : d.widgets.filter p = [w] := by
  have hother : ∀ v ∈ front ++ back, ¬ p v = true := by
    intro v hv
    have hne : v ≠ w := by
      rintro rfl
      exact h.alone v hv rfl
    simp [halone v (h.mem_other hv) hne]
  have hfront : front.filter p = [] :=
    List.filter_eq_nil_iff.mpr fun v hv => hother v (List.mem_append_left _ hv)
  have hback : back.filter p = [] :=
    List.filter_eq_nil_iff.mpr fun v hv => hother v (List.mem_append_right _ hv)
  rw [h.widgets, List.filter_append, List.filter_cons_of_pos hw, hfront, hback, List.nil_append]

theorem Dashboard.Around.candidates_id (h : d.Around front w back) :
    Resolution.candidates ⟨some w.id, none⟩ d.widgets = [w] := by
  have hfound : Resolution.withId ⟨some w.id, none⟩ d.widgets = [w] := by
    refine h.filter_eq (by simp) ?_
    intro v hv hne
    simpa using h.alone v ((h.mem_iff.mp hv).resolve_left hne)
  simp only [Resolution.candidates, hfound]

theorem Dashboard.Around.candidates_title (h : d.Around front w back)
    (halone : ∀ v ∈ d.widgets, v ≠ w → Text.fold v.title ≠ Text.fold w.title) :
    Resolution.candidates ⟨none, some w.title⟩ d.widgets = [w] := by
  have hfound : Resolution.withTitle ⟨none, some w.title⟩ d.widgets = [w] :=
    h.filter_eq (by simp) fun v hv hne => by simpa using halone v hv hne
  simpa only [Resolution.candidates, Resolution.withId] using hfound

/-- Among several widgets none is picked. -/
theorem Resolution.single_several {described : String} {found : List Widget} {v : Widget}
    (hw : w ∈ found) (hv : v ∈ found) (hne : v ≠ w) :
    single described found = (Refusal.manyMatches found.length described).raise := by
  match found, hw, hv with
  | [], hw, _ => simp at hw
  | [x], hw, hv =>
      simp only [List.mem_singleton] at hw hv
      exact absurd (hv.trans hw.symm) hne
  | x :: y :: rest, _, _ => rfl

end Meaning

/-! ### What comes of it -/

theorem Dispatcher.standard_removing {c : Command} {host : Host} {front back : List Widget}
    {w : Widget} (haround : host.dashboard.Around front w back)
    (hhook : host.failing .remove = none) (haction : c.action = .removeWidget)
    (htarget : c.target = some w.target) :
    standard.dispatch c host = (.applied c, { host with
      dashboard := { host.dashboard with
        widgets := front ++ back
        focused := if host.dashboard.focused = some w.id then none else host.dashboard.focused }
      calls := host.calls ++ [.remove (some w.id)] }) := by
  have hchange : Handler.remove.change? c = .ok (some (.remove (some w.id))) := by
    simp only [Handler.change?, htarget, Widget.target]
  rw [standard_dispatch, haction, Action.handler, run_change hchange]
  simp only [Host.perform, Change.hook, hhook, haround.apply_remove]

namespace Interpreter

/-- What comes of an utterance is that a widget is removed, and nothing else happens. -/
structure Removes (host : Host) (w : Widget) (done : Interpretation) : Prop where
  applied : ∃ c, done.result = .ok (some (.applied c)) ∧ c.action = .removeWidget ∧
    c.target = some w.target
  host : done.host = { host with
    dashboard := { host.dashboard with
      widgets := host.widgets.erase w
      focused := if host.dashboard.focused = some w.id then none else host.dashboard.focused }
    calls := host.calls ++ [.remove (some w.id)] }

section Removal

variable {u : Utterance} {live : Liveness} {oracle : Query → Reply} {host : Host}
  {answer : Answer} {catalog : Catalog} {w : Widget} {field name : String} {ref : Target}

/-- A reference that means one widget removes it. -/
theorem interpret_removal (hdistinct : host.dashboard.ids.Nodup) (hw : w ∈ host.widgets)
    (hhook : host.failing .remove = none)
    (hanswers : (ofCatalog catalog).Answers u oracle host answer) (hlive : live.Open)
    (hremoval : answer.Removal field name)
    (hfield : field = "targetWidgetId" ∨ field = "targetWidgetTitle")
    (htarget : answer.target = .ok (some ref))
    (hfound : Resolution.candidates ref host.widgets = [w]) :
    Removes host w ((ofCatalog catalog).interpret u live oracle host).2 := by
  obtain ⟨front, back, haround⟩ := Dashboard.exists_around hdistinct hw
  let c : Command := finish (.removing w) [] catalog
  have hvalid : validate answer u.text host.widgets .standard catalog = .ok c := by
    rw [validate_removal hremoval hfield htarget, hfound]
    rfl
  have hdone := interpret_valid hanswers hlive hvalid
  have hdispatch := Dispatcher.standard_removing (c := c) haround hhook rfl rfl
  have herase : host.widgets.erase w = front ++ back := by
    have hfront : w ∉ front := fun hmem => haround.alone w (List.mem_append_left _ hmem) rfl
    rw [Host.widgets, haround.widgets, List.erase_append_right _ hfront, List.erase_cons_head]
  constructor
  · refine ⟨c, ?_, rfl, rfl⟩
    rw [hdone, ofCatalog_apply_result, hdispatch]
  · rw [hdone, ofCatalog_apply_host, hdispatch, herase]

/-- What comes of asking for the removal of a widget, by its id or by its title. -/
structure Addressed (host : Host) (w : Widget) (answer : Answer) (done : Interpretation) :
    Prop where
  /-- The id means that widget. -/
  byId : answer.Removal "targetWidgetId" w.id → Removes host w done
  /-- So does the title, if it is no other widget's up to case. -/
  byTitle : answer.Removal "targetWidgetTitle" w.title →
    (∀ v ∈ host.widgets, v ≠ w → Text.fold v.title ≠ Text.fold w.title) → Removes host w done
  /-- A title that is another's too is refused, and nothing happens. -/
  shared : answer.Removal "targetWidgetTitle" w.title →
    ¬ (∀ v ∈ host.widgets, v ≠ w → Text.fold v.title ≠ Text.fold w.title) →
      (∃ feedback, done.result = .ok (some (.failed .target feedback))) ∧ done.host = host

theorem interpret_addressed (hdistinct : host.dashboard.ids.Nodup)
    (haddressable : host.dashboard.Addressable) (hw : w ∈ host.widgets)
    (hhook : host.failing .remove = none)
    (hanswers : (ofCatalog catalog).Answers u oracle host answer) (hlive : live.Open) :
    Addressed host w answer ((ofCatalog catalog).interpret u live oracle host).2 := by
  obtain ⟨front, back, haround⟩ := Dashboard.exists_around hdistinct hw
  obtain ⟨hid, htitle⟩ := haddressable w hw
  constructor
  · intro hremoval
    exact interpret_removal hdistinct hw hhook hanswers hlive hremoval (Or.inl rfl)
      (hremoval.target_id hid) haround.candidates_id
  · intro hremoval halone
    exact interpret_removal hdistinct hw hhook hanswers hlive hremoval (Or.inr rfl)
      (hremoval.target_title htitle) (haround.candidates_title halone)
  · intro hremoval hshared
    obtain ⟨v, hv, hne, hsame⟩ : ∃ v ∈ host.widgets, v ≠ w ∧
        Text.fold v.title = Text.fold w.title := by
      simpa using hshared
    let ref : Target := ⟨none, some w.title⟩
    let found : List Widget := Resolution.candidates ref host.widgets
    have hmember : ∀ x ∈ host.widgets, Text.fold x.title = Text.fold w.title → x ∈ found := by
      intro x hx hfold
      simpa [found, ref, Resolution.candidates, Resolution.withId, Resolution.withTitle] using
        ⟨hx, hfold⟩
    have hseveral : Resolution.single ref.describe found =
        (Refusal.manyMatches found.length ref.describe).raise :=
      Resolution.single_several (hmember w hw rfl) (hmember v hv hsame) hne
    have hrefused : validate answer u.text host.widgets .standard catalog =
        (Refusal.manyMatches found.length ref.describe).raise := by
      rw [validate_removal hremoval (Or.inr rfl) (hremoval.target_title htitle), hseveral]
      rfl
    obtain ⟨hresult, hhost⟩ := interpret_invalid hanswers hlive hrefused
    exact ⟨⟨_, hresult⟩, hhost⟩

end Removal

/-- The text of an answer that asks for a removal holds that answer. -/
theorem payload_removal {field : String} (hfield : field ≠ "action") (name : String) :
    Reply.payload (render (.obj [("action", .str "removeWidget"), (field, .str name)])) =
      .ok [("action", .str "removeWidget"), (field, .str name)] := by
  refine Reply.payload_render (.obj ?_ ?_)
  · simpa [Fields.names] using hfield.symm
  · simp only [List.forall_mem_cons]
    exact ⟨.str _, .str _, by simp⟩

/-- **Whatever the prompt lists can be addressed.**  However many utterances have changed a
dashboard over the standard catalog that started empty, each of its widgets is removed by its id,
and by its title unless that is another's too. -/
theorem standard_run_addressed (exchanges : List Exchange) {w : Widget}
    (hw : w ∈ (standard.run { dashboard := {} } exchanges).widgets) {u : Utterance}
    (hspoken : Text.isAllBlank u.text = false) {live : Liveness} (hlive : live.Open)
    {oracle : Query → Reply} {raw : String} (horacle : ∀ query, oracle query = .sent (.str raw))
    {answer : Answer} (hraw : Reply.payload raw = .ok answer) :
    Addressed (standard.run { dashboard := {} } exchanges) w answer
      (standard.interpret u live oracle (standard.run { dashboard := {} } exchanges)).2 := by
  let host : Host := standard.run { dashboard := {} } exchanges
  have hempty : Dashboard.WellFormed {} := .empty .standard
  have hwf : host.dashboard.WellFormed := (run_wellFormed Catalog.standard_sound rfl hempty).2
  have haddressable : host.dashboard.Addressable :=
    run_addressable Catalog.standard_sound Catalog.standard_named rfl hempty
      (by simp [Dashboard.Addressable])
  have hhook : host.failing .remove = none :=
    congrFun (run_failing .standard exchanges { dashboard := {} }) .remove
  have hanswers := answers_of_payload standard host hspoken horacle hraw
  exact interpret_addressed hwf.distinct haddressable hw hhook hanswers hlive

/-- A clock and notes under one title, up to case. -/
def desks : List Exchange := [
  { utterance := ⟨"a clock for the desk", "typed"⟩
    live := []
    oracle := fun _ => .sent (.str
      "\x7b\"action\":\"addWidget\",\"widgetType\":\"clock\",\"title\":\" Desk \"\x7d") },
  { utterance := ⟨"notes for it", "typed"⟩
    live := []
    oracle := fun _ => .sent (.str
      "\x7b\"action\":\"addWidget\",\"widgetType\":\"notes\",\"title\":\"DESK\"\x7d") }]

/-- The clock of these. -/
def deskClock : Widget where
  id := "clock-1"
  type := "clock"
  title := "Desk"
  settings := Catalog.standard.defaultSettings "clock"

theorem standard_run_addressed_desks :
    deskClock ∈ (standard.run { dashboard := {} } desks).widgets ∧
      Removes (standard.run { dashboard := {} } desks) deskClock
        (standard.interpret ⟨"away with it", "typed"⟩ [] (fun _ => .sent (.str (render (.obj
          [("action", .str "removeWidget"), ("targetWidgetId", .str "clock-1")]))))
          (standard.run { dashboard := {} } desks)).2 := by
  have hw : deskClock ∈ (standard.run { dashboard := {} } desks).widgets := by decide +kernel
  have hfield : "targetWidgetId" ≠ "action" := by decide
  have hlive : Liveness.Open [] := by simp [Liveness.Open]
  have haddressed := standard_run_addressed desks hw (u := ⟨"away with it", "typed"⟩)
    (by decide) hlive (fun _ => rfl) (payload_removal hfield "clock-1")
  exact ⟨hw, haddressed.byId (Answer.removal_pair hfield "clock-1")⟩

end Interpreter

end CommandBar
