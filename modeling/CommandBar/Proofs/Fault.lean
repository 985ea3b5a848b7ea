/-
What an interpretation does not turn into an outcome.

The pipeline reports its own errors and passes everything else on.  Over a catalog
whose phrases compile one such fault is left: an integer beyond the range of
doubles among the settings, for a setting that takes numbers.  `Raises` says when
an utterance comes to that, step by step, and it is exactly then that there is no
outcome.
-/
import CommandBar.Proofs.Interpretation
import Mathlib.Algebra.Group.Int.Defs

namespace CommandBar

/-- A text with a character that is not blank is accepted. -/
theorem Gateway.accept_ofList {cs : List Char} (h : cs.all Text.isBlank = false) :
    accept (.sent (.str (String.ofList cs))) = .ok (String.ofList cs) := by
  refine accept_eq_ok_iff.mpr ⟨rfl, ?_⟩
  rw [Text.isAllBlank, String.toList_ofList]
  exact h

/-- A text without fences holds the object that it reads as. -/
theorem Reply.payload_ofList {cs : List Char} {members : Fields Json.Value}
    (hfence : unfenceChars cs = cs) (hread : Json.readChars cs = .ok (.obj members)) :
    payload (String.ofList cs) = .ok members := by
  rw [payload, unfence, String.toList_ofList, hfence, decode, Json.read, String.toList_ofList,
    hread]
  rfl

namespace Interpreter

/-- The text of a reply is an object whose settings overflow. -/
def Overflows (i : Interpreter) (raw : String) (widgets : List Widget) : Prop :=
  ∃ answer, Reply.payload raw = .ok answer ∧
    Validation.Overflows answer widgets i.vocabulary i.catalog

/-- The utterance makes a query, the oracle sends a text whose settings overflow, and the
interface is still open. -/
def Raises (i : Interpreter) (u : Utterance) (live : Liveness) (oracle : Query → Reply)
    (widgets : List Widget) : Prop :=
  ∃ query raw, i.query? u widgets = .ok query ∧ Gateway.accept (oracle query) = .ok raw ∧
    live.ask.1 = true ∧ i.Overflows raw widgets

section Fault

variable {i : Interpreter} {u : Utterance} {live : Liveness} {reply : Reply} {host : Host}
  {fault : Fault}

theorem command_fault_iff {raw : String} {widgets : List Widget} (hcatalog : i.catalog.Compiles)
    (hfault : ∀ e, fault ≠ .command e) :
    i.command u raw widgets = .error fault ↔
      fault = .numberTooLarge ∧ i.Overflows raw widgets := by
  unfold command Overflows
  cases hpayload : Reply.payload raw with
  | error e => simpa using fun h => hfault e h.symm
  | ok answer =>
      simp only [Except.ok.injEq, exists_eq_left']
      exact Validation.validate_fault_iff hcatalog hfault

/-- A fault passes through exactly when it stops validation, is no error of the pipeline, and the
interface is still open. -/
theorem conclude_error_iff :
    (i.conclude u live reply host).result = .error fault ↔
      ∃ raw, Gateway.accept reply = .ok raw ∧ live.ask.1 = true ∧
        i.command u raw host.widgets = .error fault ∧ ∀ e, fault ≠ .command e := by
  constructor
  · intro h
    have hends := conclude_concludes i u live reply host
    generalize i.conclude u live reply host = done at h hends
    cases hends with
    | reported origin => exact absurd h (report_ne_error _ _ _ _)
    | dropped => simp at h
    | @passed raw fault' sent stays stopped other =>
        simp only [Except.error.injEq] at h
        subst h
        exact ⟨raw, sent, stays, stopped, other⟩
    | dispatched sent stays valid => simp [Interpreter.apply] at h
  · rintro ⟨raw, haccept, hlive, hstopped, hother⟩
    unfold conclude
    rw [haccept]
    cases hask : live.ask with
    | mk stays live' =>
        rw [hask] at hlive
        obtain rfl : stays = true := hlive
        cases fault with
        | command e => exact absurd rfl (hother e)
        | crash | unbalanced | sharedHandler | numberTooLarge | noTarget | noSettings
          | tableAsHandler => simp only [hstopped]

/-- **Over a catalog whose phrases compile, an interpretation raises exactly when the settings in
the reply overflow**, and then because an integer fits no double. -/
theorem interpret_error_iff (hcatalog : i.catalog.Compiles) {oracle : Query → Reply} :
    (i.interpret u live oracle host).2.result = .error fault ↔
      fault = .numberTooLarge ∧ i.Raises u live oracle host.widgets := by
  unfold interpret Raises
  cases hquery : i.query? u host.widgets with
  | error e => simp [report_ne_error]
  | ok query =>
      simp only [conclude_error_iff, Except.ok.injEq, exists_and_left, exists_eq_left']
      constructor
      · rintro ⟨raw, haccept, hlive, hstopped, hother⟩
        obtain ⟨hfault, hover⟩ := (command_fault_iff hcatalog hother).mp hstopped
        exact ⟨hfault, raw, haccept, hlive, hover⟩
      · rintro ⟨rfl, raw, haccept, hlive, hover⟩
        have hother : ∀ e, Fault.numberTooLarge ≠ .command e := by simp
        exact ⟨raw, haccept, hlive, (command_fault_iff hcatalog hother).mpr ⟨rfl, hover⟩, hother⟩

end Fault

/-- **The standard interpreter has an outcome or drops the result, unless the settings in the
reply overflow; then it raises that fault and no other.**  Texts have no lone halves of characters
(`Json.unitChar` replaces one that a reply escapes), so the failure to print or to log a feedback
that quotes one has no counterpart here. -/
theorem standard_interpret_raises_iff (u : Utterance) (live : Liveness) (oracle : Query → Reply)
    (host : Host) :
    ((∃ outcome, (standard.interpret u live oracle host).2.result = .ok outcome) ↔
        ¬ standard.Raises u live oracle host.widgets) ∧
      ∀ fault, (standard.interpret u live oracle host).2.result = .error fault ↔
        fault = .numberTooLarge ∧ standard.Raises u live oracle host.widgets := by
  have hcompiles : standard.catalog.Compiles := Catalog.standard_compiles
  refine ⟨?_, fun fault => interpret_error_iff hcompiles⟩
  constructor
  · rintro ⟨outcome, hok⟩ hraises
    rw [(interpret_error_iff hcompiles).mpr ⟨rfl, hraises⟩] at hok
    simp at hok
  · intro hnot
    cases hresult : (standard.interpret u live oracle host).2.result with
    | ok outcome => exact ⟨outcome, rfl⟩
    | error fault => exact absurd ((interpret_error_iff hcompiles).mp hresult).2 hnot

/-- What stops the validation of the object in a reply passes through, if it is no error of the
pipeline. -/
theorem interpret_stopped {i : Interpreter} {u : Utterance} {live : Liveness}
    {oracle : Query → Reply} {host : Host} {raw : String} {answer : Answer} {fault : Fault}
    (hspoken : Text.isAllBlank u.text = false)
    (haccept : ∀ query, Gateway.accept (oracle query) = .ok raw) (hlive : live.ask.1 = true)
    (hpayload : Reply.payload raw = .ok answer)
    (hvalidate : Validation.validate answer u.text host.widgets i.vocabulary i.catalog =
      .error fault) (hother : ∀ e, fault ≠ .command e) :
    (i.interpret u live oracle host).2.result = .error fault := by
  obtain ⟨query, hquery⟩ := (query?_eq_ok_iff i u host.widgets).mpr hspoken
  have hcommand : i.command u raw host.widgets = .error fault := by
    unfold command
    simp only [hpayload, hvalidate]
  simp only [interpret, hquery]
  exact conclude_error_iff.mpr ⟨raw, haccept query, hlive, hcommand, hother⟩

/-- A reply that asks for a precision of `10 ^ 309`, written out. -/
def largeReply : List Char :=
  ("\x7b\"action\":\"addWidget\",\"widgetType\":\"unitConverter\"," ++
    "\"initialSettings\":\x7b\"precision\":1").toList ++ List.replicate 309 '0' ++ ['}', '}']

/-- The object in that reply. -/
def largeAnswer : Answer := [
  ("action", .str "addWidget"), ("widgetType", .str "unitConverter"),
  ("initialSettings", .obj [("precision", .int (10 ^ 309))])]

/-- The standard interpreter raises at that reply, on an empty dashboard. -/
theorem standard_interpret_large :
    (standard.interpret ⟨"be precise", "typed"⟩ []
      (fun _ => .sent (.str (String.ofList largeReply))) { dashboard := {} }).2.result =
        .error .numberTooLarge := by
  have hspoken : Text.isAllBlank "be precise" = false := by decide +kernel
  have haccept : Gateway.accept (.sent (.str (String.ofList largeReply))) =
      .ok (String.ofList largeReply) :=
    Gateway.accept_ofList (by decide +kernel)
  have hpayload : Reply.payload (String.ofList largeReply) = .ok largeAnswer :=
    Reply.payload_ofList (by decide +kernel) (by decide +kernel)
  have hvalidate : Validation.validate largeAnswer "be precise" [] .standard .standard =
      .error .numberTooLarge := by
    decide +kernel
  exact interpret_stopped hspoken (fun _ => haccept) rfl hpayload hvalidate (by simp)

end Interpreter

end CommandBar
