/-
How the outcome of an utterance is classified.

An interpretation is a row of stages: the utterance has something to say, the oracle
replies, the reply is a text, the text holds an object, the object is a valid
command, the hook makes the change.  `FirstFailure` has a constructor for each stage
that can fail, which says that the stages before it went well and with which kind
the failure is reported.  A failed outcome has exactly that kind, and it is the
stage that decides the kind, not the error that some later stage would have made.

The feedback is never empty, because an error that brings none takes that of its
kind, and a valid command without feedback is given one.  For an error from outside
that is a fact about how errors are raised, which `Raised` states.
-/
import CommandBar.Proofs.Fence
import CommandBar.Proofs.Interpretation

namespace CommandBar

open Validation

/-! ### Feedback -/

theorem ErrorKind.defaultFeedback_ne_empty (kind : ErrorKind) : kind.defaultFeedback ≠ "" := by
  cases kind <;> decide

namespace CommandError

/-- The error has been raised with some feedback or none, an empty one counting as none. -/
def Raised (e : CommandError) : Prop :=
  ∃ kind detail feedback, e = .withFeedback kind detail feedback

theorem Raised.feedback_ne_empty {e : CommandError} (h : e.Raised) : e.feedback ≠ "" := by
  obtain ⟨kind, detail, feedback, rfl⟩ := h
  by_cases hempty : feedback = ""
  · simp [withFeedback, hempty, kind.defaultFeedback_ne_empty]
  · simp [withFeedback, hempty]

theorem raised_withFeedback (kind : ErrorKind) (detail feedback : String) :
    (withFeedback kind detail feedback).Raised :=
  ⟨kind, detail, feedback, rfl⟩

theorem raised_ofKind (kind : ErrorKind) (detail : String) : (ofKind kind detail).Raised :=
  ⟨kind, detail, "", by simp [ofKind, withFeedback]⟩

end CommandError

theorem Refusal.error_raised (r : Refusal) : r.error.Raised := by
  have hgiven : r.feedback? ≠ some "" := by
    cases r <;> simp [feedback?]
  refine ⟨r.kind, r.detail, r.feedback?.getD "", ?_⟩
  cases hfeedback : r.feedback? with
  | none => simp [error, CommandError.withFeedback, hfeedback]
  | some feedback =>
      have hne : feedback ≠ "" := by
        rintro rfl
        exact hgiven hfeedback
      simp [error, CommandError.withFeedback, hfeedback, hne]

theorem Validation.defaultFeedback_ne_empty (c : Command) (catalog : Catalog) :
    defaultFeedback c catalog ≠ "" := by
  unfold defaultFeedback
  split
  · simp
  · split <;> simp
  · simp
  · simp
  · simp

/-- Warnings only lengthen the feedback. -/
theorem Validation.foldl_warnings_ne_empty (warnings : List String) {feedback : String}
    (h : feedback ≠ "") :
    warnings.foldl (fun text warning => text ++ " " ++ warning) feedback ≠ "" := by
  induction warnings generalizing feedback with
  | nil => exact h
  | cons warning rest ih => exact ih (by simp)

theorem Validation.finish_feedback_ne_empty (c : Command) (warnings : List String)
    (catalog : Catalog) : (finish c warnings catalog).feedback ≠ "" := by
  refine foldl_warnings_ne_empty warnings ?_
  split
  · exact defaultFeedback_ne_empty c catalog
  · next hgiven => exact hgiven

theorem Validation.validate_feedback_ne_empty {answer : Answer} {utterance : String}
    {widgets : List Widget} {vocabulary : Vocabulary} {catalog : Catalog} {c : Command}
    (h : validate answer utterance widgets vocabulary catalog = .ok c) : c.feedback ≠ "" := by
  rw [validate_eq] at h
  obtain ⟨found, -, h⟩ := bind_eq_ok_iff.mp h
  obtain ⟨checked, -, h⟩ := bind_eq_ok_iff.mp h
  obtain ⟨warnings, -, h⟩ := bind_eq_ok_iff.mp h
  simp only [Except.ok.injEq] at h
  exact h ▸ finish_feedback_ne_empty checked warnings catalog

/-- Every error that validation stops with is raised. -/
theorem Validation.validate_error_raised {answer : Answer} {utterance : String}
    {widgets : List Widget} {vocabulary : Vocabulary} {catalog : Catalog} {e : CommandError}
    (h : validate answer utterance widgets vocabulary catalog = .error (.command e)) :
    e.Raised := by
  rcases validate_error h with ⟨r, hr⟩ | ⟨hlarge, -⟩ | ⟨⟨word, hword⟩, -⟩
  · simp only [Fault.command.injEq] at hr
    exact hr ▸ r.error_raised
  · simp at hlarge
  · simp at hword

theorem Reply.payload_eq_ok_iff {raw : String} {answer : Answer} :
    payload raw = .ok answer ↔ Json.read (unfence raw) = .ok (.obj answer) := by
  unfold payload decode
  split
  · next why hread => simp [hread]
  · next members hread => simp [hread]
  · next other hother hread =>
      simp only [hread, reduceCtorEq, Except.ok.injEq, false_iff]
      exact hother answer

/-- A text that holds an object is not blank. -/
theorem Reply.spoken_of_payload {raw : String} {answer : Answer} (h : payload raw = .ok answer) :
    Text.isAllBlank raw = false := by
  by_contra hblank
  have htrim : Text.trimChars raw.toList = [] := by
    rw [Text.trimChars_eq_nil_iff]
    simpa [Text.isAllBlank] using hblank
  have hbare : unfenceChars raw.toList = [] := by
    have hleaves := peelAll_leaves (raw.toList.length + 1) []
    rw [unfenceChars, htrim]
    rcases hleaves.eq_or_length_lt with heq | hlt
    · exact heq
    · simp at hlt
  have hnothing : (decode (String.ofList [])).toBool = false := by decide +kernel
  rw [payload, unfence, hbare] at h
  rw [h] at hnothing
  simp [Except.toBool] at hnothing

theorem Reply.payload_error_raised {raw : String} {e : CommandError}
    (h : payload raw = .error e) : e.Raised := by
  unfold payload decode at h
  split at h
  · simp only [Except.error.injEq] at h
    exact h ▸ CommandError.raised_ofKind _ _
  · simp at h
  · simp only [Except.error.injEq] at h
    exact h ▸ CommandError.raised_ofKind _ _

/-- The gateway raises its errors, and passes on those of the oracle. -/
theorem Gateway.accept_error_raised {reply : Reply} {e : CommandError}
    (h : accept reply = .error e) (hreply : ∀ e, reply = .refused e → e.Raised) : e.Raised := by
  unfold accept at h
  split at h
  · next e' =>
      simp only [Except.error.injEq] at h
      exact h ▸ hreply e' rfl
  · simp only [Except.error.injEq] at h
    exact h ▸ CommandError.raised_ofKind _ _
  · split at h
    · simp only [Except.error.injEq] at h
      exact h ▸ CommandError.raised_ofKind _ _
    · simp at h
  · simp only [Except.error.injEq] at h
    exact h ▸ CommandError.raised_ofKind _ _

theorem Outcome.ofFault_feedback_ne_empty {fault : Fault}
    (h : ∀ e, fault = .command e → e.Raised) : (ofFault fault).feedback ≠ "" := by
  unfold ofFault
  split
  · next detail feedback => exact (h _ rfl).feedback_ne_empty
  · simp [Outcome.feedback]

/-- The errors of the dashboard are raised. -/
theorem Dashboard.apply_error_raised {d : Dashboard} {change : Change} {e : CommandError}
    (h : d.apply change = .error (.command e)) : e.Raised := by
  have hgone : ∀ id, noSuchWidget id = .command e → e.Raised := by
    intro id hid
    simp only [noSuchWidget, Fault.command.injEq] at hid
    exact hid ▸ CommandError.raised_withFeedback _ _ _
  cases change with
  | add type settings title =>
      simp only [apply] at h
      split at h
      · simp only [unknownType, Except.error.injEq, Fault.command.injEq] at h
        exact h ▸ CommandError.raised_ofKind _ _
      · simp at h
  | focus id settings =>
      simp only [apply] at h
      split at h
      · exact hgone id (by simpa using h)
      · simp at h
  | update id settings =>
      simp only [apply] at h
      split at h
      · exact hgone id (by simpa using h)
      · simp at h
      · simp at h
  | remove id =>
      simp only [apply] at h
      split at h
      · exact hgone id (by simpa using h)
      · simp at h

/-- The errors of a hook are its own or those of the dashboard. -/
theorem Host.perform_error_raised {host : Host} {change : Change} {e : CommandError}
    (hhooks : ∀ hook e, host.failing hook = some (.command e) → e.Raised)
    (h : (host.perform change).1 = .error (.command e)) : e.Raised := by
  unfold perform at h
  split at h
  · next fault hfault =>
      simp only [Except.error.injEq] at h
      exact hhooks _ _ (h ▸ hfault)
  · split at h
    · next fault hfault =>
        simp only [Except.error.injEq] at h
        exact Dashboard.apply_error_raised (h ▸ hfault)
    · simp at h

/-- The interface is open whenever it is asked. -/
def Liveness.Open (live : Liveness) : Prop :=
  ∀ answer ∈ live, answer = true

theorem Liveness.Open.ask {live : Liveness} (h : live.Open) :
    live.ask.1 = true ∧ live.ask.2.Open := by
  unfold Liveness.ask
  split
  · exact ⟨rfl, h⟩
  · next answer => exact ⟨h answer (by simp), h⟩
  · next answer rest _ =>
      exact ⟨h answer (by simp), fun other hother => h other (List.mem_cons_of_mem _ hother)⟩

namespace Interpreter

/-! ### The stages -/

section Stages

variable (i : Interpreter) (u : Utterance) (oracle : Query → Reply) (host : Host)

/-- The utterance makes a query, and this is what the oracle does with it. -/
def Replies (reply : Reply) : Prop :=
  ∃ query, i.query? u host.widgets = .ok query ∧ oracle query = reply

/-- The oracle sends this text, which is not blank. -/
def Sends (raw : String) : Prop :=
  i.Replies u oracle host (.sent (.str raw)) ∧ Text.isAllBlank raw = false

/-- The text that the oracle sends holds this object. -/
def Answers (answer : Answer) : Prop :=
  ∃ raw, i.Sends u oracle host raw ∧ Json.read (Reply.unfence raw) = .ok (.obj answer)

/-- The object is a valid command, namely this one. -/
def Commands (c : Command) : Prop :=
  ∃ answer, i.Answers u oracle host answer ∧
    validate answer u.text host.widgets i.vocabulary i.catalog = .ok c

/-- The first stage that fails, by the kind that it is reported with. -/
inductive FirstFailure : ErrorKind → Prop
  /-- The utterance is blank. -/
  | blank (blank : Text.isAllBlank u.text = true) : FirstFailure .input
  /-- The oracle reports an error of the pipeline, whatever kind it is of. -/
  | refused {e : CommandError} (replies : i.Replies u oracle host (.refused e)) :
      FirstFailure e.kind
  /-- The oracle fails in some other way. -/
  | crashed {name message : String} (replies : i.Replies u oracle host (.crashed name message)) :
      FirstFailure .modelUnavailable
  /-- What the oracle sends is no text, or a blank one. -/
  | noText {v : Json.Value} (replies : i.Replies u oracle host (.sent v))
      (noText : ∀ raw, v = .str raw → Text.isAllBlank raw = true) :
      FirstFailure .malformedEnvelope
  /-- The text without its fences is not that of an object. -/
  | noObject {raw : String} (sends : i.Sends u oracle host raw)
      (noObject : ∀ answer, Json.read (Reply.unfence raw) ≠ .ok (.obj answer)) :
      FirstFailure .malformedResponse
  /-- The object is refused, with an error of whatever kind. -/
  | invalid {answer : Answer} {e : CommandError} (answers : i.Answers u oracle host answer)
      (refused : validate answer u.text host.widgets i.vocabulary i.catalog =
        .error (.command e)) :
      FirstFailure e.kind
  /-- The hook that makes the change of the command fails. -/
  | hook {c : Command} {change : Change} {fault : Fault} (commands : i.Commands u oracle host c)
      (asks : c.action.handler.change? c = .ok (some change))
      (fails : (host.perform change).1 = .error fault) :
      FirstFailure .rejected

end Stages

/-! ### Outcomes at each stage -/

section Outcomes

variable {i : Interpreter} {u : Utterance} {live : Liveness} {oracle : Query → Reply}
  {reply : Reply} {host : Host} {outcome : Outcome} {raw : String}

theorem report_outcome {e : CommandError}
    (h : (report e live host).result = .ok (some outcome)) :
    outcome = .failed e.kind e.feedback := by
  rcases report_result e live host with hr | hr
  · simp [hr] at h
  · simpa [hr] using h.symm

theorem interpret_of_replies (h : i.Replies u oracle host reply) :
    (i.interpret u live oracle host).2 = i.conclude u live reply host := by
  obtain ⟨query, hquery, rfl⟩ := h
  simp only [interpret, hquery]

theorem conclude_refused {e : CommandError} (haccept : Gateway.accept reply = .error e)
    (h : (i.conclude u live reply host).result = .ok (some outcome)) :
    outcome = .failed e.kind e.feedback := by
  unfold conclude at h
  rw [haccept] at h
  exact report_outcome h

/-- An accepted text is refused, or the outcome is that of its command. -/
theorem conclude_accepted (haccept : Gateway.accept reply = .ok raw)
    (h : (i.conclude u live reply host).result = .ok (some outcome)) :
    (∃ e, i.command u raw host.widgets = .error (.command e) ∧
        outcome = .failed e.kind e.feedback) ∨
      ∃ c, i.command u raw host.widgets = .ok c ∧
        outcome = (i.dispatcher.dispatch c host).1 := by
  unfold conclude at h
  rw [haccept] at h
  cases hask : live.ask with
  | mk stays live' =>
      cases stays with
      | false => simp [hask] at h
      | true =>
          simp only [hask] at h
          cases hcommand : i.command u raw host.widgets with
          | ok c =>
              simp only [hcommand, Interpreter.apply, Except.ok.injEq, Option.some.injEq] at h
              exact Or.inr ⟨c, rfl, h.symm⟩
          | error fault =>
              cases fault with
              | command e =>
                  simp only [hcommand] at h
                  exact Or.inl ⟨e, rfl, report_outcome h⟩
              | crash | unbalanced | sharedHandler | numberTooLarge | noTarget | noSettings
                | tableAsHandler => simp [hcommand] at h

theorem Sends.accept (h : i.Sends u oracle host raw) :
    Gateway.accept (.sent (.str raw)) = .ok raw :=
  Gateway.accept_eq_ok_iff.mpr ⟨rfl, h.2⟩

theorem Sends.concludes (hsends : i.Sends u oracle host raw)
    (h : (i.interpret u live oracle host).2.result = .ok (some outcome)) :
    (∃ e, i.command u raw host.widgets = .error (.command e) ∧
        outcome = .failed e.kind e.feedback) ∨
      ∃ c, i.command u raw host.widgets = .ok c ∧
        outcome = (i.dispatcher.dispatch c host).1 := by
  rw [interpret_of_replies hsends.1] at h
  exact conclude_accepted hsends.accept h

theorem command_error_raised {e : CommandError}
    (h : i.command u raw host.widgets = .error (.command e)) : e.Raised := by
  unfold command at h
  split at h
  · next e' hpayload =>
      simp only [Except.error.injEq, Fault.command.injEq] at h
      exact h ▸ Reply.payload_error_raised hpayload
  · exact validate_error_raised h

theorem command_feedback_ne_empty {c : Command}
    (h : i.command u raw host.widgets = .ok c) : c.feedback ≠ "" := by
  unfold command at h
  split at h
  · simp at h
  · exact validate_feedback_ne_empty h

theorem command_eq {answer : Answer} (h : Json.read (Reply.unfence raw) = .ok (.obj answer)) :
    i.command u raw host.widgets =
      validate answer u.text host.widgets i.vocabulary i.catalog := by
  unfold command
  rw [Reply.payload_eq_ok_iff.mpr h]

/-- An oracle that sends the text of an object answers it, whatever it is asked. -/
theorem answers_of_payload (i : Interpreter) (host : Host)
    (hspoken : Text.isAllBlank u.text = false) (horacle : ∀ query, oracle query = .sent (.str raw))
    {answer : Answer} (hraw : Reply.payload raw = .ok answer) :
    i.Answers u oracle host answer := by
  obtain ⟨query, hquery⟩ := (query?_eq_ok_iff i u host.widgets).mpr hspoken
  exact ⟨raw, ⟨⟨query, hquery, horacle query⟩, Reply.spoken_of_payload hraw⟩,
    Reply.payload_eq_ok_iff.mp hraw⟩

/-- An answer applies nothing and leaves the host alone, or has the command dispatched that it
stands for. -/
theorem Answers.dispatches {answer : Answer} (hanswers : i.Answers u oracle host answer)
    (live : Liveness) :
    (∀ c, (i.interpret u live oracle host).2.result ≠ .ok (some (.applied c))) ∧
        (i.interpret u live oracle host).2.host = host ∨
      ∃ c, validate answer u.text host.widgets i.vocabulary i.catalog = .ok c ∧
        (i.interpret u live oracle host).2 = i.apply c host := by
  obtain ⟨raw, hsends, hread⟩ := hanswers
  have hends := conclude_concludes i u live (.sent (.str raw)) host
  rw [← interpret_of_replies hsends.1] at hends
  generalize (i.interpret u live oracle host).2 = done at hends
  cases hends with
  | reported origin => exact Or.inl ⟨report_ne_applied _ _ _, rfl⟩
  | dropped => exact Or.inl ⟨by simp, rfl⟩
  | passed => exact Or.inl ⟨by simp, rfl⟩
  | @dispatched raw' c sent stays valid =>
      rw [hsends.accept, Except.ok.injEq] at sent
      subst sent
      exact Or.inr ⟨c, command_eq hread ▸ valid, rfl⟩

/-- An object that is a valid command is applied. -/
theorem interpret_valid {answer : Answer} {c : Command}
    (hanswers : i.Answers u oracle host answer) (hlive : live.Open)
    (hvalid : validate answer u.text host.widgets i.vocabulary i.catalog = .ok c) :
    (i.interpret u live oracle host).2 = i.apply c host := by
  obtain ⟨raw, hsends, hread⟩ := hanswers
  have hask : live.ask = (true, live.ask.2) := Prod.ext hlive.ask.1 rfl
  rw [interpret_of_replies hsends.1, conclude, hsends.accept, hask]
  simp only [command_eq hread, hvalid]

/-- An object that is refused is reported. -/
theorem interpret_invalid {answer : Answer} {e : CommandError}
    (hanswers : i.Answers u oracle host answer) (hlive : live.Open)
    (hvalid : validate answer u.text host.widgets i.vocabulary i.catalog =
      .error (.command e)) :
    (i.interpret u live oracle host).2.result = .ok (some (.failed e.kind e.feedback)) ∧
      (i.interpret u live oracle host).2.host = host := by
  obtain ⟨raw, hsends, hread⟩ := hanswers
  have hask : live.ask = (true, live.ask.2) := Prod.ext hlive.ask.1 rfl
  have hreport : (i.interpret u live oracle host).2 = report e live.ask.2 host := by
    rw [interpret_of_replies hsends.1, conclude, hsends.accept, hask]
    simp only [command_eq hread, hvalid]
  rw [hreport]
  exact ⟨by simp only [report, hlive.ask.2.ask.1, if_true], rfl⟩

end Outcomes

/-! ### Classification -/

section Classify

variable {u : Utterance} {live : Liveness} {oracle : Query → Reply} {host : Host}
  {catalog : Catalog} {outcome : Outcome} {kind : ErrorKind}

/-- Dispatching a valid command fails only if its hook does. -/
theorem dispatch_cases {raw : String} {c : Command}
    (hcommand : (ofCatalog catalog).command u raw host.widgets = .ok c) :
    (Dispatcher.standard.dispatch c host).1 = .applied c ∨
      ∃ change fault, c.action.handler.change? c = .ok (some change) ∧
        (host.perform change).1 = .error fault ∧
        (Dispatcher.standard.dispatch c host).1 = .ofFault fault := by
  rw [Dispatcher.standard_dispatch]
  rcases (command_ok hcommand).aim.change? with ⟨-, hnone⟩ | ⟨change, hchange⟩
  · exact Or.inl (by simp only [Dispatcher.run, hnone])
  · rw [Dispatcher.run_change hchange]
    cases hperform : (host.perform change).1 with
    | ok id => exact Or.inl rfl
    | error fault => exact Or.inr ⟨change, fault, hchange, hperform, rfl⟩

theorem dispatch_feedback_ne_empty {raw : String} {c : Command}
    (hhooks : ∀ hook e, host.failing hook = some (.command e) → e.Raised)
    (hcommand : (ofCatalog catalog).command u raw host.widgets = .ok c) :
    (Dispatcher.standard.dispatch c host).1.feedback ≠ "" := by
  rcases dispatch_cases hcommand with happlied | ⟨change, fault, -, hfails, hfailed⟩
  · rw [happlied]
    exact command_feedback_ne_empty hcommand
  · rw [hfailed]
    refine Outcome.ofFault_feedback_ne_empty fun e he => ?_
    exact Host.perform_error_raised hhooks (he ▸ hfails)

/-- The stage that fails first decides the kind. -/
theorem FirstFailure.kind? (hfirst : (ofCatalog catalog).FirstFailure u oracle host kind)
    (h : ((ofCatalog catalog).interpret u live oracle host).2.result = .ok (some outcome)) :
    outcome.kind? = some kind := by
  cases hfirst with
  | blank hblank =>
      simp only [interpret, query?, hblank, if_true] at h
      rw [report_outcome h]
      rfl
  | refused replies =>
      rw [interpret_of_replies replies] at h
      rw [conclude_refused rfl h]
      rfl
  | crashed replies =>
      rw [interpret_of_replies replies] at h
      rw [conclude_refused rfl h]
      rfl
  | @noText v replies noText =>
      rw [interpret_of_replies replies] at h
      have haccept : Gateway.accept (.sent v) = .error (Gateway.noText v) := by
        cases v with
        | str raw => simp only [Gateway.accept, noText raw rfl, if_true]
        | null | bool | int | float | arr | obj => rfl
      rw [conclude_refused haccept h]
      rfl
  | @noObject raw sends noObject =>
      have hpayload : ∀ answer, Reply.payload raw ≠ .ok answer :=
        fun answer hanswer => noObject answer (Reply.payload_eq_ok_iff.mp hanswer)
      have hcommand : ∃ e, (ofCatalog catalog).command u raw host.widgets = .error (.command e) ∧
          e.kind = .malformedResponse := by
        unfold command
        cases hread : Reply.payload raw with
        | ok answer => exact absurd hread (hpayload answer)
        | error e => exact ⟨e, rfl, Reply.payload_error hread⟩
      obtain ⟨e, herror, hkind⟩ := hcommand
      rcases sends.concludes h with ⟨e', he', rfl⟩ | ⟨c, hc, -⟩
      · rw [herror] at he'
        simp only [Except.error.injEq, Fault.command.injEq] at he'
        rw [← he', Outcome.kind?, hkind]
      · rw [herror] at hc
        simp at hc
  | @invalid answer e answers refused =>
      obtain ⟨raw, sends, hread⟩ := answers
      rcases sends.concludes h with ⟨e', he', rfl⟩ | ⟨c, hc, -⟩
      · rw [command_eq hread, refused] at he'
        simp only [Except.error.injEq, Fault.command.injEq] at he'
        rw [← he', Outcome.kind?]
      · rw [command_eq hread, refused] at hc
        simp at hc
  | @hook c change fault commands asks fails =>
      obtain ⟨answer, ⟨raw, sends, hread⟩, hvalid⟩ := commands
      rw [← command_eq hread] at hvalid
      rcases sends.concludes h with ⟨e', he', -⟩ | ⟨c', hc', rfl⟩
      · rw [hvalid] at he'
        simp at he'
      · rw [hvalid] at hc'
        simp only [Except.ok.injEq] at hc'
        obtain ⟨feedback, hfault⟩ := Outcome.ofFault_eq_rejected fault
        have hdispatch : (Dispatcher.standard.dispatch c' host).1 = .failed .rejected feedback := by
          rw [← hc', Dispatcher.standard_dispatch, Dispatcher.run_change asks, fails]
          exact hfault
        change (Dispatcher.standard.dispatch c' host).1.kind? = some .rejected
        rw [hdispatch]
        rfl

/-- What an outcome says of the interpretation that it is the outcome of. -/
structure Classified (catalog : Catalog) (u : Utterance) (oracle : Query → Reply) (host : Host)
    (outcome : Outcome) : Prop where
  /-- A command is applied and there is no kind of error, or it is the other way round. -/
  sides : (∃ c, outcome = .applied c ∧ outcome.kind? = none ∧ outcome.command? = some c) ∨
    ∃ kind feedback, outcome = .failed kind feedback ∧ outcome.kind? = some kind ∧
      outcome.command? = none
  feedback : outcome.feedback ≠ ""
  /-- The command is the one that the reply stands for. -/
  command : ∀ c, outcome.command? = some c → (ofCatalog catalog).Commands u oracle host c
  /-- The kind is that of the first stage that fails, so without one no stage does. -/
  kind : ∀ kind, outcome.kind? = some kind ↔ (ofCatalog catalog).FirstFailure u oracle host kind

/-- A reply is a text that the gateway accepts, or its stage fails. -/
theorem Replies.accepted_or_failure {reply : Reply}
    (h : (ofCatalog catalog).Replies u oracle host reply) :
    (∃ raw, (ofCatalog catalog).Sends u oracle host raw) ∨
      ∃ kind, (ofCatalog catalog).FirstFailure u oracle host kind := by
  cases reply with
  | refused e => exact Or.inr ⟨_, .refused h⟩
  | crashed name message => exact Or.inr ⟨_, .crashed h⟩
  | sent v =>
      by_cases htext : ∃ raw, v = .str raw ∧ Text.isAllBlank raw = false
      · obtain ⟨raw, rfl, hspoken⟩ := htext
        exact Or.inl ⟨raw, h, hspoken⟩
      · simp only [not_exists, not_and, Bool.not_eq_false] at htext
        exact Or.inr ⟨_, .noText h htext⟩

/-- An accepted text is applied as the command that it stands for, or some stage after it
fails. -/
theorem Sends.applied_or_failure {raw : String}
    (hsends : (ofCatalog catalog).Sends u oracle host raw)
    (h : ((ofCatalog catalog).interpret u live oracle host).2.result = .ok (some outcome)) :
    (∃ c, outcome = .applied c ∧ (ofCatalog catalog).Commands u oracle host c) ∨
      ∃ kind, (ofCatalog catalog).FirstFailure u oracle host kind := by
  by_cases hobject : ∃ answer, Json.read (Reply.unfence raw) = .ok (.obj answer)
  · obtain ⟨answer, hread⟩ := hobject
    have hanswers : (ofCatalog catalog).Answers u oracle host answer := ⟨raw, hsends, hread⟩
    rcases hsends.concludes h with ⟨e, herror, -⟩ | ⟨c, hcommand, rfl⟩
    · rw [command_eq hread] at herror
      exact Or.inr ⟨_, .invalid hanswers herror⟩
    · have hvalid : (ofCatalog catalog).Commands u oracle host c :=
        ⟨answer, hanswers, command_eq hread ▸ hcommand⟩
      rcases dispatch_cases hcommand with happlied | ⟨change, fault, hchange, hfails, -⟩
      · exact Or.inl ⟨c, happlied, hvalid⟩
      · exact Or.inr ⟨_, .hook hvalid hchange hfails⟩
  · exact Or.inr ⟨_, .noObject hsends fun answer hread => hobject ⟨answer, hread⟩⟩

/-- Whatever comes of an utterance, its command is applied or a stage fails. -/
theorem applied_or_failure
    (h : ((ofCatalog catalog).interpret u live oracle host).2.result = .ok (some outcome)) :
    (∃ c, outcome = .applied c ∧ (ofCatalog catalog).Commands u oracle host c) ∨
      ∃ kind, (ofCatalog catalog).FirstFailure u oracle host kind := by
  rcases interpret_cases (ofCatalog catalog) u live oracle host with
    ⟨hblank, -⟩ | ⟨query, hquery, -⟩
  · exact Or.inr ⟨_, .blank hblank⟩
  · rcases Replies.accepted_or_failure ⟨query, hquery, rfl⟩ with ⟨raw, hsends⟩ | hfailure
    · exact hsends.applied_or_failure h
    · exact Or.inr hfailure

/-- The user is always told something, if the errors from outside have been raised. -/
theorem interpret_feedback_ne_empty (horacle : ∀ query e, oracle query = .refused e → e.Raised)
    (hhooks : ∀ hook e, host.failing hook = some (.command e) → e.Raised)
    (h : ((ofCatalog catalog).interpret u live oracle host).2.result = .ok (some outcome)) :
    outcome.feedback ≠ "" := by
  rcases interpret_cases (ofCatalog catalog) u live oracle host with
    ⟨-, hreport⟩ | ⟨query, hquery, hconclude⟩
  · rw [hreport] at h
    rw [report_outcome h]
    exact (CommandError.raised_ofKind _ _).feedback_ne_empty
  · rw [hconclude] at h
    dsimp only at h
    cases haccept : Gateway.accept (oracle query) with
    | error e =>
        rw [conclude_refused haccept h]
        exact (Gateway.accept_error_raised haccept (horacle query)).feedback_ne_empty
    | ok raw =>
        rcases conclude_accepted haccept h with ⟨e, herror, houtcome⟩ | ⟨c, hcommand, houtcome⟩
        · rw [houtcome]
          exact (command_error_raised herror).feedback_ne_empty
        · exact houtcome ▸ dispatch_feedback_ne_empty hhooks hcommand

/-- **How the outcome of an utterance is classified**, whatever the dashboard, the replies of the
oracle and the faults of the hooks, which may be errors without words of their own. -/
theorem interpret_classified (horacle : ∀ query e, oracle query = .refused e → e.Raised)
    (hhooks : ∀ hook e, host.failing hook = some (.command e) → e.Raised)
    (h : ((ofCatalog catalog).interpret u live oracle host).2.result = .ok (some outcome)) :
    Classified catalog u oracle host outcome := by
  have hfeedback := interpret_feedback_ne_empty horacle hhooks h
  have hends := applied_or_failure h
  cases outcome with
  | applied c =>
      have hnone : ∀ kind, ¬ (ofCatalog catalog).FirstFailure u oracle host kind := by
        intro kind hfirst
        simpa [Outcome.kind?] using hfirst.kind? h
      rcases hends with ⟨c', hc', hvalid⟩ | ⟨kind, hfirst⟩
      · obtain rfl : c = c' := by simpa using hc'
        refine ⟨Or.inl ⟨c, rfl, rfl, rfl⟩, hfeedback, ?_, ?_⟩
        · intro c' hc'
          obtain rfl : c = c' := by simpa [Outcome.command?] using hc'
          exact hvalid
        · intro kind
          simp [Outcome.kind?, hnone kind]
      · exact absurd hfirst (hnone kind)
  | failed kind feedback =>
      rcases hends with ⟨c, hc, -⟩ | ⟨kind', hfirst⟩
      · simp at hc
      · have hkind : kind = kind' := by simpa [Outcome.kind?] using hfirst.kind? h
        refine ⟨Or.inr ⟨kind, feedback, rfl, rfl, rfl⟩, hfeedback, ?_, ?_⟩
        · intro c hc
          simp [Outcome.command?] at hc
        · intro other
          constructor
          · intro hother
            obtain rfl : kind = other := by simpa [Outcome.kind?] using hother
            exact hkind ▸ hfirst
          · intro hother
            exact hother.kind? h

/-- A host with one clock that cannot be removed. -/
def stuckHost : Host where
  dashboard := clockHost.dashboard
  failing
    | .remove => some (.crash "RuntimeError" "")
    | _ => none

/-- A hook that fails without a word makes a refusal, and the user is told so. -/
theorem interpret_classified_stuck :
    (∀ hook e, stuckHost.failing hook = some (.command e) → e.Raised) ∧
      (ofCatalog .standard).FirstFailure ⟨"close it", "typed"⟩ (fun _ => removal) stuckHost
        .rejected := by
  have hhooks : ∀ hook e, stuckHost.failing hook = some (.command e) → e.Raised := by
    intro hook e he
    cases hook <;> simp [stuckHost] at he
  have horacle : ∀ (query : Query) (e : CommandError), removal = .refused e → e.Raised := by
    intro query e he
    simp [removal] at he
  have hresult : ((ofCatalog .standard).interpret ⟨"close it", "typed"⟩ [] (fun _ => removal)
      stuckHost).2.result =
        .ok (some (.failed .rejected "The dashboard couldn't apply that change. ")) := by
    decide +kernel
  have hclassified := interpret_classified horacle hhooks hresult
  exact ⟨hhooks, (hclassified.kind .rejected).mp rfl⟩

end Classify

end Interpreter

end CommandBar
