/-
Checking settings against a blueprint.

The default of a setting says what it takes.  A switch takes booleans and the
words for on and off.  A number takes finite numbers and texts of numbers; if its
default is an integer, an integral value becomes one.  Anything else is a text,
for which numbers stand with their digits; where choices are listed, it has to be
one of them up to case and blanks, and the listed spelling is kept.  Null is
accepted only where it is the default.
-/
import CommandBar.Decimal.Reading
import CommandBar.Text.Case
import CommandBar.Validation.Refusal

namespace CommandBar

namespace Setting

open Json

/-- The words that switch a setting on. -/
def onWords : List String := ["true", "on", "yes", "enable", "enabled", "show"]

/-- The words that switch a setting off. -/
def offWords : List String := ["false", "off", "no", "disable", "disabled", "hide"]

/-- The value of a switch. -/
def switch? : Value → Option Bool
  | .bool b => some b
  | .str s =>
    let word := Text.lower (Text.trim s)
    if word ∈ onWords then some true
    else if word ∈ offWords then some false
    else none
  | _ => none

/-- A double as the value of a number setting, integral ones as integers where those are
wanted. -/
def ofDouble (wantsInt : Bool) (x : Double) : Value :=
  match x.toInt? with
  | some n => if wantsInt then .int n else .float x
  | none => .float x

/-- A double as the value of a number setting; `bad` reports one that is not finite. -/
def ofFinite (bad : Value → Except Fault Value) (wantsInt : Bool) (x : Double) :
    Except Fault Value :=
  if x.isFinite then .ok (ofDouble wantsInt x) else bad (.float x)

/-- An integer as the value of a number setting, which a double has to be able to hold. -/
def ofInteger (n : Int) : Except Fault Value :=
  if (Double.ofInt? n).isSome then .ok (.int n) else .error .numberTooLarge

/-- The value of a number setting; `bad` reports a value that is none. -/
def number (bad : Value → Except Fault Value) (wantsInt : Bool) (value : Value) :
    Except Fault Value :=
  match value with
  | .str s =>
    match Typed.number? s with
    | some x => ofFinite bad wantsInt x
    | none => bad value
  | .int n => ofInteger n
  | .float x => ofFinite bad wantsInt x
  | _ => bad value

/-- The text of a value that can stand as one. -/
def text? : Value → Option String
  | .str s => some s
  | .int n => some (literal (.int n))
  | .float x => some (literal (.float x))
  | _ => none

/-- The first choice that equals a text up to case and the blanks around it. -/
def choose? (choices : List String) (s : String) : Option String :=
  choices.find? fun choice => Text.fold (Text.trim s) == Text.fold choice

/-- The value of a setting of a blueprint. -/
def convert (b : Blueprint) (name : String) (info : SettingInfo) (value : Value) :
    Except Fault Value :=
  let bad (found : Value) : Except Fault Value := (Refusal.badValue b name found []).raise
  match info.default with
  | .bool _ =>
    match switch? value with
    | some on => .ok (.bool on)
    | none => bad value
  | .int _ => number bad true value
  | .float _ => number bad false value
  | default =>
    if default = .null ∧ value = .null then .ok .null
    else
      match text? value with
      | none => bad value
      | some s =>
        if info.choices = [] then .ok (.str s)
        else
          match choose? info.choices s with
          | some choice => .ok (.str choice)
          | none => (Refusal.badValue b name (.str s) info.choices).raise

/-- The patch with every value converted; each name has to be a setting of the blueprint. -/
def check (b : Blueprint) : Fields Value → Except Fault (Fields Value)
  | [] => .ok []
  | (name, value) :: rest =>
    match Fields.get? name b.settings with
    | none => (Refusal.unknownSetting b name).raise
    | some info => do
      let converted ← convert b name info value
      let checked ← check b rest
      .ok ((name, converted) :: checked)

end Setting

end CommandBar
