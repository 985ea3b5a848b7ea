/-
The schema that is offered, the validator and the dispatcher agree.

All three are made from the same vocabulary, and the first two from the same catalog.
The schema lists the names of the enabled actions, validation looks the named action up
among them, and the dispatcher has entered a handler for each.  So an action is refused
exactly when the schema does not list it, and an action that passes has its handler.

An answer that conforms to the schema has fields that can all be read.  The one point
where this could fail is the type: the schema lists it as the catalog spells it, whereas
the field is trimmed before it is looked up, so the types of the catalog have to be texts
that trimming keeps.
-/
import CommandBar.Proofs.Interpretation
import CommandBar.Proofs.Schema
import Mathlib.Data.List.Perm.Subperm

namespace CommandBar

open Json Validation OutputSchema

variable {vocabulary : Vocabulary} {catalog : Catalog} {answer : Answer}

/-! ### Reading a conforming answer -/

namespace Answer

variable {field : String}

/-- The action that is read is the one that the answer names. -/
theorem action_named {spec : ActionSpec} (h : answer.action vocabulary = .ok spec) :
    Value.member answer "action" = .str spec.action.name := by
  unfold action at h
  simp only at h
  split at h
  · exact absurd h (Refusal.raise_ne_ok _ _)
  · next named hnamed =>
      split at h
      · exact absurd h (Refusal.raise_ne_ok _ _)
      · next found hfound =>
          simp only [Except.ok.injEq] at h
          subst h
          have haction : found.action = named := by simpa using List.find?_some hfound
          split at hnamed
          · next s hs =>
              have hname : named.name = s := by simpa using List.find?_some hnamed
              rw [hs, haction, hname]
          · simp at hnamed

/-- An action is read exactly when it is one that the schema offers. -/
theorem action_ok_iff (answer : Answer) (vocabulary : Vocabulary) (catalog : Catalog) :
    (∃ spec, answer.action vocabulary = .ok spec) ↔
      Value.member answer "action" ∈ choices (ofVocabulary vocabulary catalog) "action" := by
  rw [choices_action]
  constructor
  · rintro ⟨spec, hspec⟩
    rw [action_named hspec]
    exact List.mem_map_of_mem (List.mem_map_of_mem (action_ok hspec))
  · intro h
    obtain ⟨name, hname, hmember⟩ := List.mem_map.mp h
    obtain ⟨spec, hspec, rfl⟩ := List.mem_map.mp hname
    obtain ⟨found, hfound⟩ : ∃ found, vocabulary.find? spec.action = some found := by
      rw [← Option.isSome_iff_exists, Vocabulary.find?, List.find?_isSome]
      exact ⟨spec, hspec, by simp⟩
    refine ⟨found, ?_⟩
    simp only [action, ← hmember, Action.ofName?_name, hfound]

/-- A field that is missing or a text can be read. -/
theorem exists_text (h : Value.member answer field = .null ∨
    ∃ s, Value.member answer field = .str s) : ∃ read, answer.text field = .ok read := by
  rcases h with hnull | ⟨s, hs⟩
  · exact ⟨none, text_of_null hnull⟩
  · exact ⟨_, by simp only [text, hs]; rfl⟩

/-- A type of the catalog can be read, as long as trimming keeps it. -/
theorem exists_widgetType (hcatalog : ∀ b ∈ catalog, Text.Named b.type)
    (h : Value.member answer "widgetType" = .null ∨
      ∃ b ∈ catalog, Value.member answer "widgetType" = .str b.type) :
    ∃ read, answer.widgetType catalog = .ok read := by
  rcases h with hnull | ⟨b, hb, htype⟩
  · refine ⟨none, ?_⟩
    simp only [widgetType, text_of_null hnull]
    rfl
  · obtain ⟨found, hfound⟩ := Catalog.exists_find? hb
    refine ⟨some b.type, ?_⟩
    simp only [widgetType, text_of_named (hcatalog b hb) htype, bind, Except.bind, hfound]

end Answer

/-- Every field of a conforming answer can be read. -/
theorem Validation.readRequest_of_conforming (hcatalog : ∀ b ∈ catalog, Text.Named b.type)
    (h : Conforming vocabulary catalog answer) :
    ∃ r, readRequest answer vocabulary catalog = .ok r := by
  have htext : ∀ field ∈ textFields, ∃ read, answer.text field = .ok read :=
    fun field hfield => Answer.exists_text (h.text field hfield)
  obtain ⟨spec, hspec⟩ : ∃ spec, answer.action vocabulary = .ok spec := by
    rw [Answer.action_ok_iff answer vocabulary catalog, choices_action]
    obtain ⟨spec, hspec, hmember⟩ := h.action
    rw [hmember]
    exact List.mem_map_of_mem (List.mem_map_of_mem hspec)
  obtain ⟨type, htype⟩ := Answer.exists_widgetType hcatalog h.widgetType
  obtain ⟨together, htogether⟩ : ∃ together, answer.settingsObject = .ok together := by
    rcases h.settings with hnull | ⟨members, hmembers⟩
    · exact ⟨[], by simp only [Answer.settingsObject, hnull]⟩
    · exact ⟨members, by simp only [Answer.settingsObject, hmembers]⟩
  obtain ⟨name, hname⟩ := htext "settingName" (by decide)
  obtain ⟨settings, hsettings⟩ : ∃ settings, answer.settings = .ok settings := by
    simp only [Answer.settings, htogether, hname]
    cases name with
    | none => exact ⟨_, rfl⟩
    | some name => exact ⟨_, rfl⟩
  obtain ⟨id, hid⟩ := htext "targetWidgetId" (by decide)
  obtain ⟨called, hcalled⟩ := htext "targetWidgetTitle" (by decide)
  obtain ⟨target, htarget⟩ : ∃ target, answer.target = .ok target := by
    simp only [Answer.target, hid, hcalled]
    exact ⟨_, rfl⟩
  obtain ⟨feedback, hfeedback⟩ := htext "feedbackToUser" (by decide)
  obtain ⟨title, htitle⟩ := htext "title" (by decide)
  obtain ⟨hint, hhint⟩ := htext "contextualHint" (by decide)
  simp only [readRequest, hspec, htype, hsettings, htarget, hfeedback, htitle, hhint]
  exact ⟨_, rfl⟩

/-! ### Refusing what the schema does not offer -/

namespace Validation

variable {utterance : String} {widgets : List Widget}

/-- The action is the only thing that is refused as an unknown action. -/
theorem validate_unknownAction_iff (answer : Answer) (utterance : String) (widgets : List Widget)
    (vocabulary : Vocabulary) (catalog : Catalog) :
    (∃ e, validate answer utterance widgets vocabulary catalog = .error (.command e) ∧
        e.kind = .unknownAction) ↔
      Value.member answer "action" ∉ choices (ofVocabulary vocabulary catalog) "action" := by
  rw [← Answer.action_ok_iff]
  constructor
  · rintro ⟨e, herror, hkind⟩ ⟨spec, hspec⟩
    -- with an action, whatever refuses is a later stage, and none of these has the kind
    have hlater : ∀ stage, stage ≠ .action → ¬ (Fault.command e).IsRefusal stage := by
      rintro stage hstage ⟨r, rfl, hr⟩
      simp only [Fault.command.injEq] at hr
      rw [hr] at hkind
      exact hstage (r.kind_eq_unknownAction_iff.mp hkind)
    cases hread : readRequest answer vocabulary catalog with
    | error fault =>
        rw [validate_of_unread hread] at herror
        simp only [Except.error.injEq] at herror
        subst herror
        rcases readRequest_stops answer vocabulary catalog _ hread with haction | hfield
        · rw [hspec] at haction
          simp at haction
        · exact hlater .field (by simp) hfield
    | ok r =>
        rcases validate_error_of_read hread herror with hcommand | ⟨hlarge, -⟩ | ⟨⟨word, hword⟩, -⟩
        · exact hlater .command (by simp) hcommand
        · simp at hlarge
        · simp at hword
  · intro hnone
    cases haction : answer.action vocabulary with
    | ok spec => exact absurd ⟨spec, haction⟩ hnone
    | error fault =>
        obtain ⟨r, hstage, rfl⟩ := Answer.action_refuses answer vocabulary fault haction
        have hread : readRequest answer vocabulary catalog = .error (.command r.error) := by
          simp only [readRequest, haction]
          rfl
        exact ⟨r.error, validate_of_unread hread, r.kind_eq_unknownAction_iff.mpr hstage⟩

/-- A type that the schema does not offer is refused, once the action is read. -/
theorem validate_unknownType {spec : ActionSpec} {s : String}
    (haction : answer.action vocabulary = .ok spec)
    (htype : Value.member answer "widgetType" = .str s) (hgiven : Text.trim s ≠ "")
    (hunknown : .str (Text.trim s) ∉ choices (ofVocabulary vocabulary catalog) "widgetType") :
    validate answer utterance widgets vocabulary catalog =
      (Refusal.unknownType (Text.trim s)).raise := by
  have hfind : catalog.find? (Text.trim s) = none := by
    rw [choices_widgetType] at hunknown
    refine List.find?_eq_none.mpr ?_
    intro b hb hsame
    have hsame' : b.type = Text.trim s := by simpa using hsame
    exact hunknown (hsame' ▸ List.mem_map_of_mem (List.mem_map_of_mem hb))
  have hread : answer.widgetType catalog = (Refusal.unknownType (Text.trim s)).raise := by
    simp only [Answer.widgetType, Answer.text, htype, if_neg hgiven, bind, Except.bind, hfind]
  refine validate_of_unread ?_
  simp only [readRequest, haction, hread]
  rfl

end Validation

/-- The answer without its type. -/
def Answer.withoutType (answer : Answer) : Answer :=
  answer.filter fun member => member.1 ≠ "widgetType"

theorem Answer.member_withoutType {field : String} (hfield : field ≠ "widgetType") :
    Value.member answer.withoutType field = Value.member answer field :=
  (Value.member_filter (fun name => decide (name ≠ "widgetType")) field answer).trans
    (if_pos (by simpa using hfield))

/-! ### The handlers of the enabled actions -/

theorem Vocabulary.standard_handler :
    ∀ spec ∈ Vocabulary.standard, Handler.ofName? spec.handler = some spec.action.handler := by
  decide

/-- The handlers of a vocabulary whose actions have those of the standard one. -/
def Vocabulary.handlers (vocabulary : Vocabulary) : List (Action × Handler) :=
  vocabulary.map fun spec => (spec.action, spec.action.handler)

namespace Dispatcher

theorem enter_of_nodup :
    ∀ {entered : List (Action × Handler)},
      (∀ spec ∈ vocabulary, Handler.ofName? spec.handler = some spec.action.handler) →
      (entered.map Prod.snd ++ vocabulary.map (·.action.handler)).Nodup →
      enter entered vocabulary = .ok (entered ++ vocabulary.handlers) := by
  induction vocabulary with
  | nil =>
      intro entered _ _
      simp [enter, Vocabulary.handlers]
  | cons spec rest ih =>
      intro entered hnamed hdistinct
      have hnew : spec.action.handler ∉ entered.map Prod.snd := by
        intro hold
        exact (List.nodup_append.mp hdistinct).2.2 _ hold _ (by simp) rfl
      have hmoved : entered.map Prod.snd ++ (spec :: rest).map (·.action.handler) =
          (entered ++ [(spec.action, spec.action.handler)]).map Prod.snd ++
            rest.map (·.action.handler) := by
        simp
      rw [enter, hnamed spec List.mem_cons_self]
      simp only [if_neg hnew]
      rw [ih (fun other hother => hnamed other (List.mem_cons_of_mem _ hother))
        (hmoved ▸ hdistinct)]
      simp [Vocabulary.handlers]

/-- Any part of the standard vocabulary, in any order, has a dispatcher. -/
theorem ofVocabulary_of_subperm (h : vocabulary.Subperm Vocabulary.standard) :
    ofVocabulary vocabulary = .ok ⟨vocabulary.handlers⟩ := by
  have hnamed : ∀ spec ∈ vocabulary, Handler.ofName? spec.handler = some spec.action.handler :=
    fun spec hspec => Vocabulary.standard_handler spec (h.subset hspec)
  have hdistinct : (vocabulary.map (·.action.handler)).Nodup := by
    have hstandard : (Vocabulary.standard.map (·.action.handler)).Nodup := by decide
    obtain ⟨part, hperm, hpart⟩ := h
    exact (hperm.map _).nodup_iff.mp (hstandard.sublist (hpart.map _))
  have henter : enter [] vocabulary = .ok ([] ++ vocabulary.handlers) :=
    enter_of_nodup hnamed (by simpa using hdistinct)
  rw [ofVocabulary, henter]
  rfl

theorem handler?_of_mem {spec : ActionSpec} (h : spec ∈ vocabulary) :
    handler? ⟨vocabulary.handlers⟩ spec.action = some spec.action.handler := by
  induction vocabulary with
  | nil => simp at h
  | cons first rest ih =>
      by_cases hfirst : first.action = spec.action
      · simp [handler?, Vocabulary.handlers, hfirst]
      · have hne : (spec.action == first.action) = false := by simpa using Ne.symm hfirst
        have hrest : spec ∈ rest := by
          rcases List.mem_cons.mp h with rfl | hrest
          · exact absurd rfl hfirst
          · exact hrest
        simpa [handler?, Vocabulary.handlers, List.lookup_cons, hne] using ih hrest

end Dispatcher

/-- A command that passes validation has an enabled action. -/
theorem Validation.validate_enabled {utterance : String} {widgets : List Widget} {c : Command}
    (h : validate answer utterance widgets vocabulary catalog = .ok c) :
    ∃ spec ∈ vocabulary, spec.action = c.action := by
  obtain ⟨r, hread, haction, -⟩ := validate_reads h
  exact ⟨r.spec, (readRequest_ok hread).1, haction.symm⟩

namespace Interpreter

/-- What an utterance has done by the handler of an enabled action, or without any. -/
inductive RunsEnabled (vocabulary : Vocabulary) (host : Host) (done : Interpretation) : Prop
  /-- No handler has run: no command is applied, and the host is the one there was. -/
  | none (unapplied : ∀ c, done.result ≠ .ok (some (.applied c))) (same : done.host = host)
  /-- The handler of an enabled action has run, and nothing else. -/
  | handler {spec : ActionSpec} {c : Command} (enabled : spec ∈ vocabulary)
      (action : c.action = spec.action)
      (result : done.result = .ok (some (Dispatcher.run spec.action.handler c host).1))
      (ran : done.host = (Dispatcher.run spec.action.handler c host).2)

/-- The interpreter of a vocabulary whose actions have the handlers of the standard one. -/
def ofHandlers (vocabulary : Vocabulary) (catalog : Catalog) : Interpreter where
  vocabulary := vocabulary
  catalog := catalog
  dispatcher := ⟨vocabulary.handlers⟩

theorem ofVocabulary_of_subperm (h : vocabulary.Subperm Vocabulary.standard) (catalog : Catalog) :
    ofVocabulary vocabulary catalog = .ok (ofHandlers vocabulary catalog) := by
  rw [ofVocabulary, Dispatcher.ofVocabulary_of_subperm h]
  rfl

theorem interpret_runsEnabled (u : Utterance) (live : Liveness) (oracle : Query → Reply)
    (host : Host) :
    RunsEnabled vocabulary host
      ((ofHandlers vocabulary catalog).interpret u live oracle host).2 := by
  rcases interpret_dispatches (ofHandlers vocabulary catalog) u live oracle host with
    ⟨hunapplied, hsame⟩ | ⟨answer, c, hvalid, hdone⟩
  · exact .none hunapplied hsame
  · obtain ⟨spec, hspec, haction⟩ := validate_enabled hvalid
    have hhandler : (ofHandlers vocabulary catalog).dispatcher.handler? c.action =
        some spec.action.handler := by
      rw [← haction]
      exact Dispatcher.handler?_of_mem hspec
    have hdispatch : (ofHandlers vocabulary catalog).dispatcher.dispatch c host =
        Dispatcher.run spec.action.handler c host := by
      rw [Dispatcher.dispatch, hhandler]
    refine .handler hspec haction.symm ?_ ?_
    · rw [hdone, Interpreter.apply, hdispatch]
    · rw [hdone, Interpreter.apply, hdispatch]

end Interpreter

/-! ### The agreement -/

namespace OutputSchema

/-- How the schema that is offered, validation and dispatching fit together. -/
structure Agrees (vocabulary : Vocabulary) (catalog : Catalog) : Prop where
  /-- An action is refused exactly when the schema does not offer it. -/
  action : ∀ (answer : Answer) (utterance : String) (widgets : List Widget),
    (∃ e, validate answer utterance widgets vocabulary catalog = .error (.command e) ∧
        e.kind = .unknownAction) ↔
      Value.member answer "action" ∉ choices (ofVocabulary vocabulary catalog) "action"
  /-- The fields of a conforming answer can be read, and no field is what it is refused for. -/
  fields : ∀ answer : Answer, conforms (ofVocabulary vocabulary catalog) (.obj answer) = true →
    (∃ r, readRequest answer vocabulary catalog = .ok r) ∧
      ∀ (utterance : String) (widgets : List Widget) (e : CommandError),
        validate answer utterance widgets vocabulary catalog = .error (.command e) →
          ∃ r : Refusal, r.stage = .command ∧ e = r.error
  /-- An answer that conforms but for its type is refused for a type that is not offered. -/
  type : ∀ (answer : Answer) (s : String),
    conforms (ofVocabulary vocabulary catalog) (.obj answer.withoutType) = true →
      Value.member answer "widgetType" = .str s → Text.trim s ≠ "" →
      .str (Text.trim s) ∉ choices (ofVocabulary vocabulary catalog) "widgetType" →
      ∀ (utterance : String) (widgets : List Widget),
        validate answer utterance widgets vocabulary catalog =
          (Refusal.unknownType (Text.trim s)).raise
  /-- Every action that passes has its handler. -/
  handlers : ∃ d, Dispatcher.ofVocabulary vocabulary = .ok d ∧
    ∀ (answer : Answer) (utterance : String) (widgets : List Widget) (c : Command),
      validate answer utterance widgets vocabulary catalog = .ok c →
        d.handler? c.action = some c.action.handler
  /-- Whatever the oracle replies, no handler runs but that of an enabled action. -/
  runs : ∃ i, Interpreter.ofVocabulary vocabulary catalog = .ok i ∧
    ∀ (u : Utterance) (live : Liveness) (oracle : Query → Reply) (host : Host),
      Interpreter.RunsEnabled vocabulary host (i.interpret u live oracle host).2

/-- **What is offered is what is accepted and what is done**, for any part of the standard
vocabulary in any order and any catalog whose types are names. -/
theorem ofVocabulary_agrees (hvocabulary : vocabulary.Subperm Vocabulary.standard)
    (hcatalog : ∀ b ∈ catalog, Text.Named b.type) : Agrees vocabulary catalog where
  action := fun answer utterance widgets =>
    validate_unknownAction_iff answer utterance widgets vocabulary catalog
  fields := by
    intro answer hconforms
    obtain ⟨r, hread⟩ := readRequest_of_conforming hcatalog (conforming_of_conforms hconforms)
    refine ⟨⟨r, hread⟩, ?_⟩
    intro utterance widgets e herror
    rcases validate_error_of_read hread herror with
      ⟨refusal, hstage, hrefusal⟩ | ⟨hlarge, -⟩ | ⟨⟨word, hword⟩, -⟩
    · exact ⟨refusal, hstage, by simpa using hrefusal⟩
    · simp at hlarge
    · simp at hword
  type := by
    intro answer s hconforms htype hgiven hunknown utterance widgets
    obtain ⟨spec, hspec⟩ : ∃ spec, answer.action vocabulary = .ok spec := by
      obtain ⟨spec, hspec, hmember⟩ := (conforming_of_conforms hconforms).action
      rw [Answer.member_withoutType (by decide)] at hmember
      rw [Answer.action_ok_iff answer vocabulary catalog, choices_action, hmember]
      exact List.mem_map_of_mem (List.mem_map_of_mem hspec)
    exact validate_unknownType hspec htype hgiven hunknown
  handlers := by
    refine ⟨_, Dispatcher.ofVocabulary_of_subperm hvocabulary, ?_⟩
    intro answer utterance widgets c hvalid
    obtain ⟨spec, hspec, haction⟩ := validate_enabled hvalid
    rw [← haction]
    exact Dispatcher.handler?_of_mem hspec
  runs := by
    refine ⟨_, Interpreter.ofVocabulary_of_subperm hvocabulary catalog, ?_⟩
    intro u live oracle host
    exact Interpreter.interpret_runsEnabled u live oracle host

/-- A vocabulary that only adds widgets and answers. -/
def additions : Vocabulary :=
  (Vocabulary.standard.filter fun spec => !spec.targeted).reverse

theorem ofVocabulary_agrees_additions :
    additions.Subperm Vocabulary.standard ∧ (∀ b ∈ Catalog.standard, Text.Named b.type) ∧
      (∃ e, validate [("action", .str "removeWidget")] "away with it" [] additions .standard =
        .error (.command e) ∧ e.kind = .unknownAction) ∧
      ∃ r, readRequest [("action", .str "addWidget"), ("widgetType", .str "clock"),
        ("initialSettings", .obj []), ("settingValue", .null)] additions .standard = .ok r := by
  have hvocabulary : additions.Subperm Vocabulary.standard :=
    (List.reverse_perm _).subperm.trans List.filter_sublist.subperm
  have hcatalog : ∀ b ∈ Catalog.standard, Text.Named b.type := by decide +kernel
  have hagrees := ofVocabulary_agrees hvocabulary hcatalog
  refine ⟨hvocabulary, hcatalog, ?_, ?_⟩
  · exact (hagrees.action _ _ _).mpr (by decide +kernel)
  · exact (hagrees.fields _ (by decide +kernel)).1

end OutputSchema

end CommandBar
