/-
What applying a valid command does.

`Effect` describes it without mention of hooks and handlers, one constructor for
each thing a command can do, and every constructor gives the next dashboard as a
whole: what it does not name has not changed.  Two results use it in different
directions.  Dispatching a command whose aim is known has the effect of that
command, or leaves the dashboard alone and has a failed outcome; and an effect of
checked settings keeps a dashboard well formed.

Running a handler is looked at once, for any handler and any command, since the
row of calls and the dashboard after a failure depend on neither.
-/
import CommandBar.Dispatcher
import CommandBar.Proofs.Dashboard
import CommandBar.Proofs.Validation

namespace CommandBar

open Validation

/-- What a command does to a dashboard that it is applied to. -/
inductive Command.Effect (c : Command) (d : Dashboard) : Dashboard → Prop
  /-- A widget of the type is added behind the others and focused, with the patch over the
  defaults of its blueprint. -/
  | added {w : Widget} {b : Blueprint} {n : Nat}
      (action : c.action = .addWidget ∨ c.action = .openOrFocusWidget)
      (type : c.widgetType = some w.type) (known : d.catalog.find? w.type = some b)
      (id : w.id = Dashboard.numberedId w.type n) (fresh : w.id ∉ d.ids)
      (title : w.title = if isGiven c.title then c.title.getD "" else b.defaultTitle)
      (settings : w.settings = Fields.override b.defaults c.patch) :
      Effect c d { d with
        widgets := d.widgets ++ [w], nextNumber := n + 1, focused := some w.id }
  /-- The target is focused, with the patch over its settings. -/
  | focused {front back : List Widget} {w : Widget} (action : c.action = .openOrFocusWidget)
      (around : d.Around front w back) (target : c.target = some w.target)
      (type : c.widgetType = some w.type) :
      Effect c d { d with widgets := front ++ w.override c.patch :: back, focused := some w.id }
  /-- The patch is put over the settings of the target. -/
  | updated {front back : List Widget} {w : Widget} (action : c.action = .updateWidgetSettings)
      (around : d.Around front w back) (target : c.target = some w.target)
      (type : c.widgetType = some w.type) :
      Effect c d { d with widgets := front ++ w.override c.patch :: back }
  /-- The target is removed, and the focus with it if it was the focused one. -/
  | removed {front back : List Widget} {w : Widget} (action : c.action = .removeWidget)
      (around : d.Around front w back) (target : c.target = some w.target)
      (type : c.widgetType = some w.type) :
      Effect c d { d with
        widgets := front ++ back
        focused := if d.focused = some w.id then none else d.focused }
  /-- Nothing is changed. -/
  | nothing (action : c.action = .noop) : Effect c d d

/-! ### Running a handler -/

theorem Outcome.ofFault_eq_rejected (fault : Fault) :
    ∃ feedback, Outcome.ofFault fault = .failed .rejected feedback := by
  unfold Outcome.ofFault
  split
  · exact ⟨_, rfl⟩
  · exact ⟨_, rfl⟩

theorem Outcome.ofFault_ne_applied (fault : Fault) (c : Command) :
    Outcome.ofFault fault ≠ .applied c := by
  obtain ⟨feedback, h⟩ := Outcome.ofFault_eq_rejected fault
  simp [h]

theorem Host.perform_ok {host : Host} {change : Change} {id : Option String}
    (h : (host.perform change).1 = .ok id) :
    host.dashboard.apply change = .ok ((host.perform change).2.dashboard, id) := by
  unfold Host.perform at h ⊢
  split
  · next fault hfault => rw [hfault] at h; simp at h
  · next hnone =>
      rw [hnone] at h
      split
      · next fault hfault => rw [hfault] at h; simp at h
      · next next made hmade =>
          rw [hmade] at h
          simp only [Except.ok.injEq] at h
          rw [hmade, h]

theorem Host.perform_of_apply {host : Host} {change : Change} {next : Dashboard}
    {id : Option String} (hhook : host.failing change.hook = none)
    (h : host.dashboard.apply change = .ok (next, id)) : (host.perform change).1 = .ok id := by
  simp only [Host.perform, hhook, h]

/-- Which hooks fail does not change. -/
theorem Host.perform_failing (host : Host) (change : Change) :
    (host.perform change).2.failing = host.failing := by
  unfold Host.perform
  split
  · rfl
  · split <;> rfl

namespace Dispatcher

variable {handler : Handler} {c c' : Command} {host : Host}

/-- A change decides the outcome, and nothing but the change is done. -/
theorem run_change {change : Change} (h : handler.change? c = .ok (some change)) :
    run handler c host =
      (match (host.perform change).1 with
        | .error fault => Outcome.ofFault fault
        | .ok _ => .applied c, (host.perform change).2) := by
  cases hperform : host.perform change with
  | mk made after =>
      cases made with
      | error fault => simp only [run, h, hperform]
      | ok id => simp only [run, h, hperform]

theorem run_calls (handler : Handler) (c : Command) (host : Host) :
    (run handler c host).2.calls = host.calls ∨
      ∃ change, (run handler c host).2.calls = host.calls ++ [change] := by
  cases hchange : handler.change? c with
  | error fault => simp [run, hchange]
  | ok asked =>
      cases asked with
      | none => simp [run, hchange]
      | some change =>
          rw [run_change hchange]
          exact Or.inr ⟨change, host.perform_calls change⟩

theorem run_failing (handler : Handler) (c : Command) (host : Host) :
    (run handler c host).2.failing = host.failing := by
  cases hchange : handler.change? c with
  | error fault => simp [run, hchange]
  | ok asked =>
      cases asked with
      | none => simp [run, hchange]
      | some change =>
          rw [run_change hchange]
          exact host.perform_failing change

/-- A command that is not applied leaves the dashboard as it was. -/
theorem run_failed (h : ∀ c', (run handler c host).1 ≠ .applied c') :
    (run handler c host).2.dashboard = host.dashboard := by
  cases hchange : handler.change? c with
  | error fault => simp [run, hchange]
  | ok asked =>
      cases asked with
      | none => simp [run, hchange]
      | some change =>
          rw [run_change hchange] at h ⊢
          cases hperform : (host.perform change).1 with
          | error fault => exact Host.perform_dashboard_of_error hperform
          | ok id => simp [hperform] at h

/-- A command that is applied has asked for nothing, or its change has been made. -/
theorem run_applied (h : (run handler c host).1 = .applied c') :
    c' = c ∧ (handler.change? c = .ok none ∧ (run handler c host).2.dashboard = host.dashboard ∨
      ∃ change id, handler.change? c = .ok (some change) ∧
        host.dashboard.apply change = .ok ((run handler c host).2.dashboard, id)) := by
  cases hchange : handler.change? c with
  | error fault =>
      simp only [run, hchange] at h
      exact absurd h (Outcome.ofFault_ne_applied _ _)
  | ok asked =>
      cases asked with
      | none =>
          simp only [run, hchange, Outcome.applied.injEq] at h
          exact ⟨h.symm, Or.inl ⟨rfl, by simp only [run, hchange]⟩⟩
      | some change =>
          rw [run_change hchange] at h ⊢
          cases hperform : (host.perform change).1 with
          | error fault =>
              rw [hperform] at h
              exact absurd h (Outcome.ofFault_ne_applied _ _)
          | ok id =>
              simp only [hperform, Outcome.applied.injEq] at h
              exact ⟨h.symm, Or.inr ⟨change, id, rfl, Host.perform_ok hperform⟩⟩

/-- A command whose change can be made is applied. -/
theorem run_of_apply {change : Change} {next : Dashboard} {id : Option String}
    (hchange : handler.change? c = .ok (some change)) (hhook : host.failing change.hook = none)
    (h : host.dashboard.apply change = .ok (next, id)) :
    (run handler c host).1 = .applied c := by
  rw [run_change hchange, Host.perform_of_apply hhook h]

end Dispatcher

/-! ### The change of a valid command -/

/-- The handler that the standard vocabulary has for an action. -/
def Action.handler : Action → Handler
  | .addWidget => .add
  | .openOrFocusWidget => .openOrFocus
  | .updateWidgetSettings => .update
  | .removeWidget => .remove
  | .noop => .noop

theorem Dispatcher.standard_dispatch (c : Command) (host : Host) :
    standard.dispatch c host = run c.action.handler c host := by
  unfold dispatch
  cases c.action with
  | addWidget | openOrFocusWidget | updateWidgetSettings | removeWidget | noop => rfl

/-- Settings that are empty are not passed on, which leaves the patch the same. -/
theorem Command.patch_passed (c : Command) :
    (if c.patch = [] then none else c.settings).getD [] = c.patch := by
  by_cases hempty : c.patch = []
  · rw [if_pos hempty, hempty]
    rfl
  · rw [if_neg hempty]
    rfl

section Change

variable {c : Command} {d : Dashboard} {catalog : Catalog} {change : Change}

/-- Adding needs no more than a type that the dashboard knows. -/
theorem addition_effect (haction : c.action = .addWidget ∨ c.action = .openOrFocusWidget)
    {b : Blueprint} (hb : d.catalog.ofType? c.widgetType = some b) :
    ∃ next id, d.apply (Handler.addition c) = .ok (next, id) ∧ c.Effect d next := by
  obtain ⟨type, htype, hfind⟩ := Option.bind_eq_some_iff.mp hb
  have hbtype : b.type = type := (Catalog.find?_mem hfind).2
  let title : Option String := if isGiven c.title then c.title else none
  let number := Dashboard.freshNumber b.type d.ids d.widgets.length d.nextNumber
  let w : Widget := {
    id := Dashboard.numberedId b.type number
    type := b.type
    title := if isGiven title then title.getD "" else b.defaultTitle
    settings := Fields.override b.defaults c.patch }
  have hmade : d.apply (Handler.addition c) = .ok (d.addWidget b c.patch title, some w.id) := by
    simp only [Handler.addition, Dashboard.apply, hb]
    rfl
  have hfresh : w.id ∉ d.ids := by
    have hlength : d.widgets.length = d.ids.length := by simp [Dashboard.ids]
    simp only [w, number, hlength]
    exact Dashboard.freshNumber_fresh b.type d.ids d.nextNumber
  have htitle : w.title = if isGiven c.title then c.title.getD "" else b.defaultTitle := by
    cases hgiven : isGiven c.title with
    | true => simp [w, title, hgiven]
    | false =>
        have hnone : isGiven none = false := rfl
        simp [w, title, hgiven, hnone]
  have hadded : d.addWidget b c.patch title =
      { d with widgets := d.widgets ++ [w], nextNumber := number + 1, focused := some w.id } := rfl
  refine ⟨d.addWidget b c.patch title, some w.id, hmade, ?_⟩
  rw [hadded]
  exact .added haction (by rw [htype, ← hbtype]) (by simp only [w, hbtype, hfind]) rfl hfresh
    htitle rfl

/-- Adding a widget of a type has its effect, unless the dashboard does not know the type. -/
theorem addition_change (haction : c.action = .addWidget ∨ c.action = .openOrFocusWidget)
    {b : Blueprint} (hb : catalog.ofType? c.widgetType = some b) :
    (∃ next id, d.apply (Handler.addition c) = .ok (next, id) ∧ c.Effect d next) ∨
      d.catalog.ofType? c.widgetType = none ∧ (∃ b, catalog.ofType? c.widgetType = some b) ∧
        d.apply (Handler.addition c) = .error (Dashboard.unknownType c.widgetType) := by
  cases hknown : d.catalog.ofType? c.widgetType with
  | some own => exact Or.inl (addition_effect haction hknown)
  | none =>
      refine Or.inr ⟨rfl, ⟨b, hb⟩, ?_⟩
      simp only [Handler.addition, Dashboard.apply, hknown]

/-- The change of a command with an aim has the effect of the command, unless the dashboard
does not know the type of the widget that is to be added. -/
theorem Validation.Aim.change_effect (haim : Aim d.widgets catalog c) (hdistinct : d.ids.Nodup)
    (hchange : c.action.handler.change? c = .ok (some change)) :
    (∃ next id, d.apply change = .ok (next, id) ∧ c.Effect d next) ∨
      d.catalog.ofType? c.widgetType = none ∧ (∃ b, catalog.ofType? c.widgetType = some b) ∧
        d.apply change = .error (Dashboard.unknownType c.widgetType) := by
  cases haim with
  | @add b action type =>
      simp only [action, Action.handler, Handler.change?, Except.ok.injEq, Option.some.injEq]
        at hchange
      subst hchange
      exact addition_change (Or.inl action) type
  | @openNew b action target type fresh =>
      simp only [action, Action.handler, Handler.change?, target, Except.ok.injEq,
        Option.some.injEq] at hchange
      subst hchange
      exact addition_change (Or.inr action) type
  | @focus w b action mem target type known =>
      simp only [action, Action.handler, Handler.change?, target, Except.ok.injEq,
        Option.some.injEq] at hchange
      subst hchange
      obtain ⟨front, back, haround⟩ := Dashboard.exists_around hdistinct mem
      refine Or.inl ⟨_, _, haround.apply_focus _, ?_⟩
      rw [c.patch_passed]
      exact .focused action haround target type
  | @update w action mem target type given =>
      obtain ⟨patch, hpatch⟩ := Option.ne_none_iff_exists'.mp given
      simp only [action, Action.handler, Handler.change?, target, hpatch, Except.ok.injEq,
        Option.some.injEq] at hchange
      subst hchange
      obtain ⟨front, back, haround⟩ := Dashboard.exists_around hdistinct mem
      refine Or.inl ⟨_, _, haround.apply_update _, ?_⟩
      have hsame : patch = c.patch := by simp [Command.patch, hpatch]
      rw [hsame]
      exact .updated action haround target type
  | @remove w action mem target type =>
      simp only [action, Action.handler, Handler.change?, target, Except.ok.injEq,
        Option.some.injEq] at hchange
      subst hchange
      obtain ⟨front, back, haround⟩ := Dashboard.exists_around hdistinct mem
      exact Or.inl ⟨_, _, haround.apply_remove, .removed action haround target type⟩
  | noop action => simp [action, Action.handler, Handler.change?] at hchange

/-- A command with an aim asks for a change, unless it is there to do nothing. -/
theorem Validation.Aim.change? {widgets : List Widget} (haim : Aim widgets catalog c) :
    c.action = .noop ∧ c.action.handler.change? c = .ok none ∨
      ∃ change, c.action.handler.change? c = .ok (some change) := by
  cases haim with
  | add action type => simp [action, Action.handler, Handler.change?]
  | openNew action target type fresh => simp [action, Action.handler, Handler.change?, target]
  | focus action mem target type known => simp [action, Action.handler, Handler.change?, target]
  | update action mem target type given => simp [action, Action.handler, Handler.change?, target]
  | remove action mem target type => simp [action, Action.handler, Handler.change?, target]
  | noop action => simp [action, Action.handler, Handler.change?]

end Change

/-! ### Dispatching a valid command -/

section Dispatch

variable {c c' : Command} {host : Host} {catalog : Catalog}

/-- **An applied command has had its effect.** -/
theorem Dispatcher.standard_applied (haim : Aim host.widgets catalog c)
    (hdistinct : host.dashboard.ids.Nodup) (h : (standard.dispatch c host).1 = .applied c') :
    c' = c ∧ c.Effect host.dashboard (standard.dispatch c host).2.dashboard := by
  rw [standard_dispatch] at h ⊢
  obtain ⟨hsame, ⟨hnone, hdashboard⟩ | ⟨change, id, hchange, hmade⟩⟩ := run_applied h
  · refine ⟨hsame, ?_⟩
    rw [hdashboard]
    rcases haim.change? with ⟨hnoop, -⟩ | ⟨change, hchange⟩
    · exact .nothing hnoop
    · rw [hnone] at hchange
      simp at hchange
  · refine ⟨hsame, ?_⟩
    rcases haim.change_effect hdistinct hchange with ⟨next, id', hnext, heffect⟩ | ⟨-, -, herror⟩
    · rw [hmade] at hnext
      simp only [Except.ok.injEq, Prod.mk.injEq] at hnext
      rw [hnext.1]
      exact heffect
    · rw [hmade] at herror
      simp at herror

/-- **A command with an aim on a dashboard over the same catalog is applied, unless a hook
fails.** -/
theorem Dispatcher.standard_applies (haim : Aim host.widgets host.dashboard.catalog c)
    (hdistinct : host.dashboard.ids.Nodup) (hhooks : ∀ hook, host.failing hook = none) :
    (standard.dispatch c host).1 = .applied c := by
  rw [standard_dispatch]
  rcases haim.change? with ⟨-, hnone⟩ | ⟨change, hchange⟩
  · simp only [run, hnone]
  · rcases haim.change_effect hdistinct hchange with ⟨next, id, hnext, -⟩ | ⟨hnone, ⟨b, hb⟩, -⟩
    · exact run_of_apply hchange (hhooks _) hnext
    · rw [hnone] at hb
      simp at hb

end Dispatch

/-! ### Effects and the invariant -/

/-- **The effect of checked settings keeps a dashboard well formed.** -/
theorem Command.Effect.wellFormed {c : Command} {d d' : Dashboard} (h : c.Effect d d')
    (hwf : d.WellFormed) (hsound : ∀ b ∈ d.catalog, b.Sound) (hchecked : Checked d.catalog c) :
    d'.WellFormed := by
  have hpatch : ∀ {w : Widget} {b : Blueprint}, c.action.setsSettings = true →
      c.widgetType = some w.type → d.catalog.find? w.type = some b → b.AdmitsPatch c.patch := by
    intro w b hsets htype hb
    exact hchecked hsets b (by rw [htype]; exact hb)
  cases h with
  | added action type known id fresh title settings =>
      have hsets : c.action.setsSettings = true := by
        rcases action with action | action
        · rw [action]; rfl
        · rw [action]; rfl
      have hsound' := hsound _ (Catalog.find?_mem known).1
      refine hwf.added fresh known ?_
      rw [settings]
      exact Blueprint.admits_override (Blueprint.admits_defaults hsound')
        (hpatch hsets type known)
  | focused action around target type =>
      exact hwf.overridden around (fun b hb => hpatch (by rw [action]; rfl) type hb) (Or.inr rfl)
  | updated action around target type =>
      exact hwf.overridden around (fun b hb => hpatch (by rw [action]; rfl) type hb) (Or.inl rfl)
  | removed action around target type => exact hwf.removed around
  | nothing action => exact hwf

theorem Command.Effect.catalog_eq {c : Command} {d d' : Dashboard} (h : c.Effect d d') :
    d'.catalog = d.catalog := by
  cases h with
  | added | focused | updated | removed | nothing => rfl

end CommandBar
