/-
A number and its text as the value of a setting.

A number setting takes a number as it is and a text for the double that it is read as.
For a double the two come to the same, whatever it is, since it comes back from its
text.  For an integer they do not.  The integer is kept with all its digits, the text
is rounded, and the results are equal exactly if the integer is a double itself; from
2^53 + 1 on there are some that are not.  At the far end the two differ in another way:
an integer that no double can hold stops the check, and its text is refused as an
infinity.
-/
import CommandBar.Proofs.Setting
import CommandBar.Proofs.Typed
import CommandBar.Proofs.Whole

namespace CommandBar

open Json

namespace Json.Value

/-- Whether the value is a number. -/
def isNumber : Value → Bool
  | .int _ | .float _ => true
  | _ => false

/-- The number in units of 2^-1074, unless the value is no finite number. -/
def units? : Value → Option Int
  | .int n => some (n * Double.one)
  | .float x => x.units?
  | _ => none

end Json.Value

namespace Setting

/-- Both outcomes are the same number, or both are refused as a malformed response. -/
inductive Alike : Except Fault Value → Except Fault Value → Prop
  | same {v w : Value} {k : Int} (left : v.units? = some k) (right : w.units? = some k) :
      Alike (.ok v) (.ok w)
  | refused {e e' : CommandError} (left : e.kind = .malformedResponse)
      (right : e'.kind = .malformedResponse) : Alike (.error (.command e)) (.error (.command e'))

section Number

variable {b : Blueprint} {name : String} {info : SettingInfo} {wantsInt : Bool}

/-- How a number setting reports a value that is none. -/
def report (b : Blueprint) (name : String) (found : Value) : Except Fault Value :=
  (Refusal.badValue b name found []).raise

theorem convert_numeric (b : Blueprint) (name : String) (h : info.isNumeric = true) :
    ∃ wantsInt, ∀ value, convert b name info value = number (report b name) wantsInt value := by
  unfold SettingInfo.isNumeric at h
  split at h
  · next n hdefault => exact ⟨true, fun value => by simp only [convert, hdefault]; rfl⟩
  · next x hdefault => exact ⟨false, fun value => by simp only [convert, hdefault]; rfl⟩
  · exact absurd h (by decide)

/-- A double stays the same number, also where it becomes an integer. -/
theorem units?_ofDouble (x : Double) : (ofDouble wantsInt x).units? = x.units? := by
  unfold ofDouble
  split
  · next n hwhole =>
      split
      · exact (Double.toInt?_eq_some_iff.mp hwhole).symm
      · rfl
  · rfl

/-- A double comes to the same as itself. -/
theorem alike_ofFinite (x : Double) :
    Alike (ofFinite (report b name) wantsInt x) (ofFinite (report b name) wantsInt x) := by
  unfold ofFinite
  cases x with
  | nan => exact .refused rfl rfl
  | infinite negative => exact .refused rfl rfl
  | finite negative m => exact .same (units?_ofDouble _) (units?_ofDouble _)

/-- An integer comes to the same as the double it is rounded to exactly if it is that double. -/
theorem alike_ofInteger_iff (n : Int) :
    Alike (ofInteger n) (ofFinite (report b name) wantsInt
        (.ofMagnitude? (decide (n < 0)) (Magnitude.nearest? n.natAbs 1))) ↔ Double.Holds n := by
  rw [← Double.exists_toInt?_iff]
  unfold ofInteger
  cases hnearest : Magnitude.nearest? n.natAbs 1 with
  | none =>
      have hlost : Double.ofInt? n = none := by rw [Double.ofInt?, hnearest, Option.map_none]
      rw [hlost]
      constructor
      · intro h
        cases h
      · rintro ⟨x, hx⟩
        obtain ⟨y, hy, -⟩ := Double.exists_ofInt?_of_toInt? hx
        rw [hlost] at hy
        exact absurd hy (by simp)
  | some m =>
      have hrounded : Double.ofInt? n = some (.finite (decide (n < 0)) m) := by
        rw [Double.ofInt?, hnearest, Option.map_some]
      rw [hrounded]
      show Alike (.ok (.int n)) (.ok (ofDouble wantsInt (.finite (decide (n < 0)) m))) ↔ _
      constructor
      · intro h
        cases h with
        | same left right =>
            rw [units?_ofDouble, ← left] at right
            exact ⟨_, Double.toInt?_eq_some_iff.mpr right⟩
      · rintro ⟨x, hx⟩
        obtain ⟨y, hy, hwhole⟩ := Double.exists_ofInt?_of_toInt? hx
        rw [hrounded, Option.some.injEq] at hy
        rw [← hy, Double.toInt?_eq_some_iff] at hwhole
        exact .same rfl ((units?_ofDouble _).trans hwhole)

/-- **A number and its text come to the same exactly if the number is a double**: always for a
double, and for an integer if it is one.  Then they are the same number, or both are refused. -/
theorem convert_render_iff {value : Value} (hnumeric : info.isNumeric = true)
    (hvalue : value.isNumber = true) :
    Alike (convert b name info value) (convert b name info (.str (render value))) ↔
      ∀ n, value = .int n → Double.Holds n := by
  obtain ⟨wantsInt, hconvert⟩ := convert_numeric b name hnumeric
  rw [hconvert, hconvert]
  cases value with
  | int n =>
      have hint : number (report b name) wantsInt (.int n) = ofInteger n := rfl
      have htext : number (report b name) wantsInt (.str (render (.int n))) =
          ofFinite (report b name) wantsInt
            (.ofMagnitude? (decide (n < 0)) (Magnitude.nearest? n.natAbs 1)) := by
        simp only [number, Typed.number?_render_int]
      rw [hint, htext, alike_ofInteger_iff]
      simp
  | float x =>
      have hfloat : number (report b name) wantsInt (.float x) =
          ofFinite (report b name) wantsInt x := rfl
      have htext : number (report b name) wantsInt (.str (render (.float x))) =
          ofFinite (report b name) wantsInt x := by
        simp only [number, Typed.number?_render_float]
      rw [hfloat, htext]
      simp [alike_ofFinite]
  | null | bool _ | str _ | arr _ | obj _ => simp [Value.isNumber] at hvalue

/-- The unit converter, of which only the places of a result are of interest. -/
def converter : Blueprint where
  type := "unitConverter"
  displayName := "Unit Converter"
  defaultTitle := "Unit Converter"
  description := "Convert various units."
  settings := [("precision", { default := .int 4 })]

/-- The places that the converter is set to. -/
def places (value : Value) : Except Fault Value :=
  convert converter "precision" { default := .int 4 } value

theorem convert_render_iff_even :
    SettingInfo.isNumeric { default := .int 4 } = true ∧
      Alike (places (.int 9007199254740994)) (places (.str (render (.int 9007199254740994)))) := by
  have heven : Double.Holds 9007199254740994 := ⟨4503599627370497, 1, by decide⟩
  refine ⟨rfl, (convert_render_iff rfl rfl).mpr ?_⟩
  intro n hn
  rw [Value.int.injEq] at hn
  exact hn ▸ heven

/-- The integer behind 2^53 is kept, and its text becomes 2^53. -/
theorem convert_render_odd :
    places (.int 9007199254740993) = .ok (.int 9007199254740993) ∧
      places (.str (render (.int 9007199254740993))) = .ok (.int 9007199254740992) ∧
      ¬ Alike (places (.int 9007199254740993)) (places (.str (render (.int 9007199254740993)))) := by
  have hkept : places (.int 9007199254740993) = .ok (.int 9007199254740993) := by
    decide +kernel
  have hrounded : places (.str (render (.int 9007199254740993))) =
      .ok (.int 9007199254740992) := by
    decide +kernel
  refine ⟨hkept, hrounded, ?_⟩
  rw [hkept, hrounded]
  intro halike
  cases halike with
  | same left right =>
      rw [← left] at right
      have hone : (Double.one : Int) ≠ 0 :=
        Int.natCast_ne_zero.mpr (Nat.ne_of_gt Double.one_pos)
      have hsame := Int.eq_of_mul_eq_mul_right hone (Option.some.inj right)
      exact absurd hsame (by decide)

end Number

end Setting

end CommandBar
