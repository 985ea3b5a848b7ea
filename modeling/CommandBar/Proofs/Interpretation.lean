/-
What an utterance can come to.

`Concludes` lists the ways in which the interpretation of a reply ends: an error
is reported, the result is dropped, a fault passes through, or a command that has
passed validation is dispatched.  In all but the last the host is the one there
was, so whatever holds of every interpretation is a fact about dispatching a valid
command.

The results are about the standard vocabulary and any catalog.  The dashboard may
be over a catalog of its own, and its hooks may fail.
-/
import CommandBar.Interpreter
import CommandBar.Proofs.Dispatch

namespace CommandBar

open Validation

/-! ### Where the errors come from -/

/-- The gateway makes no refusal of the dashboard of its own. -/
theorem Gateway.accept_error {reply : Reply} {e : CommandError} (h : accept reply = .error e)
    (hkind : e.kind = .rejected) : reply = .refused e := by
  unfold accept at h
  split at h
  · simp only [Except.error.injEq] at h
    rw [h]
  · simp only [Except.error.injEq] at h
    simp [← h, CommandError.ofKind] at hkind
  · split at h
    · simp only [Except.error.injEq] at h
      simp [← h, noText, CommandError.ofKind] at hkind
    · simp at h
  · simp only [Except.error.injEq] at h
    simp [← h, noText, CommandError.ofKind] at hkind

theorem Reply.payload_error {raw : String} {e : CommandError} (h : payload raw = .error e) :
    e.kind = .malformedResponse := by
  unfold payload decode at h
  split at h
  · simp only [Except.error.injEq] at h
    simp [← h, CommandError.ofKind]
  · simp at h
  · simp only [Except.error.injEq] at h
    simp [← h, CommandError.ofKind]

namespace Interpreter

/-- The interpreter for the standard vocabulary over a catalog. -/
def ofCatalog (catalog : Catalog) : Interpreter where
  vocabulary := .standard
  catalog := catalog
  dispatcher := .standard

theorem ofVocabulary_standard (catalog : Catalog) :
    ofVocabulary .standard catalog = .ok (ofCatalog catalog) := rfl

section Command

variable {i : Interpreter} {u : Utterance} {raw : String} {widgets : List Widget}

/-- No error in the text of a reply is reported as a refusal of the dashboard. -/
theorem command_error {e : CommandError} (h : i.command u raw widgets = .error (.command e)) :
    e.kind ≠ .rejected := by
  unfold command at h
  split at h
  · next e' hpayload =>
      simp only [Except.error.injEq, Fault.command.injEq] at h
      rw [← h, Reply.payload_error hpayload]
      simp
  · rcases validate_error h with ⟨r, hr⟩ | ⟨hlarge, -⟩ | ⟨⟨word, hword⟩, -⟩
    · simp only [Fault.command.injEq] at hr
      rw [hr]
      exact Refusal.kind_ne_rejected r
    · simp at hlarge
    · simp at hword

/-- The command of a text is one that an answer is valid for. -/
theorem command_validates {c : Command} (h : i.command u raw widgets = .ok c) :
    ∃ answer, validate answer u.text widgets i.vocabulary i.catalog = .ok c := by
  unfold command at h
  split at h
  · simp at h
  · next answer _ => exact ⟨answer, h⟩

end Command

/-! ### How an interpretation ends -/

/-- The ways in which the interpretation of a reply ends. -/
inductive Concludes (i : Interpreter) (u : Utterance) (live : Liveness) (reply : Reply)
    (host : Host) : Interpretation → Prop
  /-- An error is reported, and only the oracle reports one as a refusal of the dashboard. -/
  | reported {e : CommandError} {live' : Liveness}
      (origin : e.kind = .rejected → reply = .refused e) :
      Concludes i u live reply host (report e live' host)
  /-- The interface is closed, and the result is dropped. -/
  | dropped : Concludes i u live reply host
      { result := .ok none, host, printed := ["  (interface closed, dropping result)"] }
  /-- What stops validation is no error of the pipeline, and passes through. -/
  | passed {raw : String} {fault : Fault} (sent : Gateway.accept reply = .ok raw)
      (stays : live.ask.1 = true) (stopped : i.command u raw host.widgets = .error fault)
      (other : ∀ e, fault ≠ .command e) :
      Concludes i u live reply host { result := .error fault, host }
  /-- A valid command is dispatched. -/
  | dispatched {raw : String} {c : Command} (sent : Gateway.accept reply = .ok raw)
      (stays : live.ask.1 = true) (valid : i.command u raw host.widgets = .ok c) :
      Concludes i u live reply host (i.apply c host)

section Conclude

variable {i : Interpreter} {u : Utterance} {live : Liveness} {reply : Reply} {host : Host}

theorem conclude_concludes (i : Interpreter) (u : Utterance) (live : Liveness) (reply : Reply)
    (host : Host) : Concludes i u live reply host (i.conclude u live reply host) := by
  unfold conclude
  split
  · next e haccept => exact .reported fun hkind => Gateway.accept_error haccept hkind
  · next raw haccept =>
      split
      · exact .dropped
      · next live' hlive =>
          have hstays : live.ask.1 = true := by rw [hlive]
          split
          · next e herror => exact .reported fun hkind => absurd hkind (command_error herror)
          · next fault hother hfault =>
              exact .passed haccept hstays hfault fun e he => hother e he
          · next c hvalid => exact .dispatched haccept hstays hvalid

theorem report_result (e : CommandError) (live : Liveness) (host : Host) :
    (report e live host).result = .ok none ∨
      (report e live host).result = .ok (some (.failed e.kind e.feedback)) := by
  unfold report
  cases live.ask.1 with
  | true => exact Or.inr rfl
  | false => exact Or.inl rfl

theorem report_ne_error (e : CommandError) (live : Liveness) (host : Host) (fault : Fault) :
    (report e live host).result ≠ .error fault := by
  rcases report_result e live host with h | h
  · simp [h]
  · simp [h]

theorem report_ne_applied (e : CommandError) (live : Liveness) (host : Host) (c : Command) :
    (report e live host).result ≠ .ok (some (.applied c)) := by
  rcases report_result e live host with h | h
  · simp [h]
  · simp [h]

theorem report_failed {e : CommandError} {live : Liveness} {host : Host} {kind : ErrorKind}
    {feedback : String} (h : (report e live host).result = .ok (some (.failed kind feedback))) :
    e.kind = kind := by
  rcases report_result e live host with hr | hr
  · simp [hr] at h
  · simp only [hr, Except.ok.injEq, Option.some.injEq, Outcome.failed.injEq] at h
    exact h.1

end Conclude

/-! ### What an interpretation does to the host -/

section Frame

variable {u : Utterance} {live : Liveness} {reply : Reply} {host : Host} {catalog : Catalog}

theorem ofCatalog_apply_result (catalog : Catalog) (c : Command) (host : Host) :
    ((ofCatalog catalog).apply c host).result =
      .ok (some (Dispatcher.standard.dispatch c host).1) := rfl

theorem ofCatalog_apply_host (catalog : Catalog) (c : Command) (host : Host) :
    ((ofCatalog catalog).apply c host).host = (Dispatcher.standard.dispatch c host).2 := rfl

theorem command_ok {raw : String} {widgets : List Widget} {c : Command}
    (h : (ofCatalog catalog).command u raw widgets = .ok c) : Validated widgets catalog c := by
  obtain ⟨answer, hvalid⟩ := command_validates h
  exact validate_ok Vocabulary.standard_regular hvalid

theorem conclude_calls (catalog : Catalog) (u : Utterance) (live : Liveness) (reply : Reply)
    (host : Host) :
    ((ofCatalog catalog).conclude u live reply host).host.calls = host.calls ∨
      ∃ change,
        ((ofCatalog catalog).conclude u live reply host).host.calls = host.calls ++ [change] := by
  have hends := conclude_concludes (ofCatalog catalog) u live reply host
  generalize (ofCatalog catalog).conclude u live reply host = done at hends
  cases hends with
  | reported | dropped | passed => exact Or.inl rfl
  | @dispatched raw c sent stays valid =>
      rw [ofCatalog_apply_host, Dispatcher.standard_dispatch]
      exact Dispatcher.run_calls _ c host

/-- Unless a command is applied, the dashboard is the one there was. -/
theorem conclude_unapplied
    (h : ∀ c, ((ofCatalog catalog).conclude u live reply host).result ≠ .ok (some (.applied c))) :
    ((ofCatalog catalog).conclude u live reply host).host.dashboard = host.dashboard := by
  have hends := conclude_concludes (ofCatalog catalog) u live reply host
  generalize (ofCatalog catalog).conclude u live reply host = done at h hends
  cases hends with
  | reported | dropped | passed => rfl
  | @dispatched raw c sent stays valid =>
      rw [ofCatalog_apply_host, Dispatcher.standard_dispatch]
      refine Dispatcher.run_failed fun c' hc' => h c' ?_
      rw [ofCatalog_apply_result, Dispatcher.standard_dispatch, hc']

/-- An applied command is valid for the widgets there were, and has had its effect. -/
theorem conclude_applied (hdistinct : host.dashboard.ids.Nodup) {c : Command}
    (h : ((ofCatalog catalog).conclude u live reply host).result = .ok (some (.applied c))) :
    Validated host.widgets catalog c ∧
      c.Effect host.dashboard ((ofCatalog catalog).conclude u live reply host).host.dashboard := by
  have hends := conclude_concludes (ofCatalog catalog) u live reply host
  generalize (ofCatalog catalog).conclude u live reply host = done at h hends
  cases hends with
  | reported origin => exact absurd h (report_ne_applied _ _ _ _)
  | dropped => simp at h
  | passed => simp at h
  | @dispatched raw c' sent stays valid =>
      have hvalid := command_ok valid
      rw [ofCatalog_apply_result] at h
      simp only [Except.ok.injEq, Option.some.injEq] at h
      obtain ⟨rfl, heffect⟩ := Dispatcher.standard_applied hvalid.aim hdistinct h
      exact ⟨hvalid, heffect⟩

end Frame

/-! ### Both halves at once -/

section Interpret

variable {u : Utterance} {live : Liveness} {oracle : Query → Reply} {host : Host}
  {catalog : Catalog}

/-- A blank utterance is reported, any other is concluded with the reply to its query. -/
theorem interpret_cases (i : Interpreter) (u : Utterance) (live : Liveness)
    (oracle : Query → Reply) (host : Host) :
    Text.isAllBlank u.text = true ∧
        i.interpret u live oracle host =
          (none, report (.ofKind .input "empty utterance") live host) ∨
      ∃ query, i.query? u host.widgets = .ok query ∧
        i.interpret u live oracle host = (some query, i.conclude u live (oracle query) host) := by
  unfold interpret
  cases hblank : Text.isAllBlank u.text with
  | true => exact Or.inl ⟨rfl, by simp [query?, hblank]⟩
  | false => exact Or.inr ⟨_, by simp [query?, hblank]; rfl, by simp [query?, hblank]⟩

/-- An utterance applies nothing and leaves the host alone, or has a command dispatched that is
valid for it. -/
theorem interpret_dispatches (i : Interpreter) (u : Utterance) (live : Liveness)
    (oracle : Query → Reply) (host : Host) :
    (∀ c, (i.interpret u live oracle host).2.result ≠ .ok (some (.applied c))) ∧
        (i.interpret u live oracle host).2.host = host ∨
      ∃ answer c, validate answer u.text host.widgets i.vocabulary i.catalog = .ok c ∧
        (i.interpret u live oracle host).2 = i.apply c host := by
  rcases interpret_cases i u live oracle host with ⟨-, hreport⟩ | ⟨query, -, hconclude⟩
  · rw [hreport]
    exact Or.inl ⟨report_ne_applied _ _ _, rfl⟩
  · rw [hconclude]
    dsimp only
    have hends := conclude_concludes i u live (oracle query) host
    generalize i.conclude u live (oracle query) host = done at hends
    cases hends with
    | reported origin => exact Or.inl ⟨report_ne_applied _ _ _, rfl⟩
    | dropped => exact Or.inl ⟨by simp, rfl⟩
    | passed => exact Or.inl ⟨by simp, rfl⟩
    | @dispatched raw c sent stays valid =>
        obtain ⟨answer, hvalid⟩ := command_validates valid
        exact Or.inr ⟨answer, c, hvalid, rfl⟩

theorem query?_eq_ok_iff (i : Interpreter) (u : Utterance) (widgets : List Widget) :
    (∃ query, i.query? u widgets = .ok query) ↔ Text.isAllBlank u.text = false := by
  unfold query?
  cases Text.isAllBlank u.text with
  | true => simp
  | false => simp

/-- The oracle is asked one thing, and about a blank utterance nothing; its other replies do not
matter. -/
theorem interpret_asks (i : Interpreter) (u : Utterance) (live : Liveness)
    (oracle : Query → Reply) (host : Host) :
    ((i.interpret u live oracle host).1 = none ↔ Text.isAllBlank u.text = true) ∧
      ∀ oracle' : Query → Reply,
        (∀ query, (i.interpret u live oracle host).1 = some query → oracle' query = oracle query) →
        i.interpret u live oracle' host = i.interpret u live oracle host := by
  cases hblank : Text.isAllBlank u.text with
  | true => simp [interpret, query?, hblank]
  | false =>
      obtain ⟨query, hquery⟩ := (query?_eq_ok_iff i u host.widgets).mpr hblank
      refine ⟨by simp [interpret, hquery], ?_⟩
      intro oracle' hsame
      simp only [interpret, hquery] at hsame ⊢
      rw [hsame query rfl]

/-- What an utterance does to a host, by the query that was asked and what came of it. -/
structure Frame (u : Utterance) (host : Host) (asked : Option Query) (done : Interpretation) :
    Prop where
  /-- The oracle is asked, unless the utterance is blank. -/
  asks : asked = none ↔ Text.isAllBlank u.text = true
  /-- At most one hook is called. -/
  calls : done.host.calls = host.calls ∨ ∃ change, done.host.calls = host.calls ++ [change]
  /-- A command that is applied has its effect, and nothing else happens. -/
  applied : ∀ c, done.result = .ok (some (.applied c)) →
    c.Effect host.dashboard done.host.dashboard
  /-- Without one the dashboard is the one there was, its numbering included. -/
  unapplied : (∀ c, done.result ≠ .ok (some (.applied c))) →
    done.host.dashboard = host.dashboard

/-- **What an utterance does**, whatever the oracle sends and whichever hooks fail.  The second
part says that the oracle is asked no more than once: nothing depends on what it would reply to
another query. -/
theorem interpret_frame (catalog : Catalog) (u : Utterance) (live : Liveness)
    (oracle : Query → Reply) (host : Host) (hdistinct : host.dashboard.ids.Nodup) :
    Frame u host ((ofCatalog catalog).interpret u live oracle host).1
        ((ofCatalog catalog).interpret u live oracle host).2 ∧
      ∀ oracle' : Query → Reply,
        (∀ query, ((ofCatalog catalog).interpret u live oracle host).1 = some query →
          oracle' query = oracle query) →
        (ofCatalog catalog).interpret u live oracle' host =
          (ofCatalog catalog).interpret u live oracle host := by
  obtain ⟨hasked, hheard⟩ := interpret_asks (ofCatalog catalog) u live oracle host
  refine ⟨?_, hheard⟩
  rcases interpret_cases (ofCatalog catalog) u live oracle host with
    ⟨-, hreport⟩ | ⟨query, -, hconclude⟩
  · rw [hreport] at hasked ⊢
    exact ⟨hasked, Or.inl rfl, fun c hc => absurd hc (report_ne_applied _ _ _ _), fun _ => rfl⟩
  · rw [hconclude] at hasked ⊢
    dsimp only at hasked ⊢
    refine ⟨hasked, conclude_calls catalog u live _ host, ?_, ?_⟩
    · intro c hc
      exact (conclude_applied hdistinct hc).2
    · intro hnone
      exact conclude_unapplied hnone

/-- A host with one clock. -/
def clockHost : Host where
  dashboard := { widgets := [{ id := "clock-1", type := "clock", title := "Clock" }] }

/-- A reply that the one clock is to go. -/
def removal : Reply :=
  .sent (.str "\x7b\"action\":\"removeWidget\",\"widgetType\":\"clock\"\x7d")

/-- The command of that reply. -/
def removalCommand : Command where
  action := .removeWidget
  feedback := "Removing Clock..."
  widgetType := some "clock"
  target := some ⟨some "clock-1", some "Clock"⟩

theorem interpret_frame_removal :
    clockHost.dashboard.ids.Nodup ∧
      removalCommand.Effect clockHost.dashboard
        ((ofCatalog .standard).interpret ⟨"close it", "typed"⟩ [] (fun _ => removal)
          clockHost).2.host.dashboard := by
  have hdistinct : clockHost.dashboard.ids.Nodup := by decide
  have happlied : ((ofCatalog .standard).interpret ⟨"close it", "typed"⟩ [] (fun _ => removal)
      clockHost).2.result = .ok (some (.applied removalCommand)) := by
    decide +kernel
  have hframe := (interpret_frame .standard ⟨"close it", "typed"⟩ [] (fun _ => removal) clockHost
    hdistinct).1
  exact ⟨hdistinct, hframe.applied removalCommand happlied⟩

/-! ### Refusals of the dashboard -/

/-- Where no hook fails, an interpretation over the catalog of the dashboard ends in a refusal
of the dashboard only if the oracle has reported one. -/
theorem conclude_rejected {reply : Reply} (hdistinct : host.dashboard.ids.Nodup)
    (hhooks : ∀ hook, host.failing hook = none) {feedback : String}
    (h : ((ofCatalog host.dashboard.catalog).conclude u live reply host).result =
      .ok (some (.failed .rejected feedback))) :
    ∃ e, reply = .refused e ∧ e.kind = .rejected := by
  have hends := conclude_concludes (ofCatalog host.dashboard.catalog) u live reply host
  generalize (ofCatalog host.dashboard.catalog).conclude u live reply host = done at h hends
  cases hends with
  | @reported e live' origin =>
      have hkind := report_failed h
      exact ⟨e, origin hkind, hkind⟩
  | dropped => simp at h
  | passed => simp at h
  | @dispatched raw c sent stays valid =>
      have happlied := Dispatcher.standard_applies (command_ok valid).aim hdistinct hhooks
      rw [ofCatalog_apply_result, happlied] at h
      simp at h

/-- **What passes validation is applied.**  Dispatching a command that has been validated over
the catalog of the dashboard, for the widgets on it, fails only if a hook does.  So the pipeline
reports a refusal of the dashboard only if the oracle has reported one. -/
theorem validate_dispatch (hdistinct : host.dashboard.ids.Nodup)
    (hhooks : ∀ hook, host.failing hook = none) :
    (∀ (answer : Answer) (utterance : String) (c : Command),
      validate answer utterance host.widgets .standard host.dashboard.catalog = .ok c →
        (Dispatcher.standard.dispatch c host).1 = .applied c) ∧
      ∀ (u : Utterance) (live : Liveness) (oracle : Query → Reply) (feedback : String),
        ((ofCatalog host.dashboard.catalog).interpret u live oracle host).2.result =
            .ok (some (.failed .rejected feedback)) →
          ∃ query e, (ofCatalog host.dashboard.catalog).query? u host.widgets = .ok query ∧
            oracle query = .refused e ∧ e.kind = .rejected := by
  constructor
  · intro answer utterance c hvalid
    exact Dispatcher.standard_applies (validate_ok Vocabulary.standard_regular hvalid).aim
      hdistinct hhooks
  · intro u live oracle feedback h
    rcases interpret_cases (ofCatalog host.dashboard.catalog) u live oracle host with
      ⟨-, hreport⟩ | ⟨query, hquery, hconclude⟩
    · rw [hreport] at h
      have hkind := report_failed h
      simp [CommandError.ofKind] at hkind
    · rw [hconclude] at h
      dsimp only at h
      obtain ⟨e, hrefused, hkind⟩ := conclude_rejected hdistinct hhooks h
      exact ⟨query, e, hquery, hrefused, hkind⟩

theorem validate_dispatch_removal :
    clockHost.dashboard.ids.Nodup ∧ (∀ hook, clockHost.failing hook = none) ∧
      validate [("action", .str "removeWidget"), ("widgetType", .str "clock")] "close it"
        clockHost.widgets .standard clockHost.dashboard.catalog = .ok removalCommand ∧
      (Dispatcher.standard.dispatch removalCommand clockHost).1 = .applied removalCommand := by
  have hdistinct : clockHost.dashboard.ids.Nodup := by decide
  have hhooks : ∀ hook, clockHost.failing hook = none := fun _ => rfl
  have hvalid : validate [("action", .str "removeWidget"), ("widgetType", .str "clock")]
      "close it" clockHost.widgets .standard clockHost.dashboard.catalog = .ok removalCommand := by
    decide +kernel
  exact ⟨hdistinct, hhooks, hvalid, (validate_dispatch hdistinct hhooks).1 _ _ _ hvalid⟩

end Interpret

end Interpreter

end CommandBar
