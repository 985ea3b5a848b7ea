/-
Double-precision numbers.

A finite double is a sign and a magnitude; a magnitude is `significand` times two
to the `exponent`, counted in units of 2^-1074, the least positive double.  The
three conditions make the pair unique: the significand has at most 53 bits, it
has exactly 53 unless the exponent is zero, and the exponent stays below the
first one that would overflow.  Two magnitudes are therefore equal as numbers
exactly when they are equal, and nothing here needs machine arithmetic.

Every number enters through `Magnitude.nearest?`, which rounds an exact quotient
to the nearest magnitude, a tie to the even significand.  Powers are `Nat.pow`
itself, so they do not depend on what else can be raised to a power.
-/

namespace CommandBar

/-- The size of a finite double, in units of 2^-1074. -/
structure Magnitude where
  significand : Nat
  exponent : Nat
  /-- There are at most 53 bits. -/
  significand_lt : significand < Nat.pow 2 53
  /-- The number does not overflow. -/
  exponent_le : exponent ≤ 2045
  /-- Leading zeros occur at the least exponent only. -/
  normal : 0 < exponent → Nat.pow 2 52 ≤ significand
deriving DecidableEq

/-- A double-precision number. -/
inductive Double
  | nan
  | infinite (negative : Bool)
  | finite (negative : Bool) (magnitude : Magnitude)
deriving DecidableEq

/-! ### Rounding -/

/-- The natural number nearest to a quotient, a tie going to the even one. -/
def divNearest (num den : Nat) : Nat :=
  let q := num / den
  let twice := 2 * (num % den)
  if twice < den then q
  else if den < twice then q + 1
  else if q % 2 = 0 then q
  else q + 1

namespace Magnitude

/-- The magnitude zero. -/
def nothing : Magnitude :=
  ⟨0, 0, by decide, by decide, by decide⟩

/-- The magnitude in units of 2^-1074. -/
def units (m : Magnitude) : Nat :=
  m.significand * Nat.pow 2 m.exponent

/-- The magnitude nearest to a quotient, `none` when it is too large.

The exponent is chosen so that the quotient keeps 53 bits; rounding may carry
into a 54th, and then the next power of two is the nearest. -/
def nearest? (num den : Nat) : Option Magnitude :=
  let scaled := num * Nat.pow 2 1074
  let exponent := (scaled / den).log2 - 52
  let significand := divNearest scaled (den * Nat.pow 2 exponent)
  if h : significand < Nat.pow 2 53 ∧ exponent ≤ 2045 ∧
      (0 < exponent → Nat.pow 2 52 ≤ significand) then
    some ⟨significand, exponent, h.1, h.2.1, h.2.2⟩
  else if h : exponent + 1 ≤ 2045 then
    some ⟨Nat.pow 2 52, exponent + 1, by decide, h, fun _ => Nat.le_refl _⟩
  else
    none

/-- The magnitude nearest to `digits` times ten to the `exponent`.

Beyond ten to the 400th nothing but zero fits.  Below two to the -1200th, which
the logarithm bounds without computing the power of ten, everything is zero. -/
def ofDecimal? (digits : Nat) (exponent : Int) : Option Magnitude :=
  if digits = 0 then some nothing
  else if 0 ≤ exponent then
    if 400 < exponent then none else nearest? (digits * Nat.pow 10 exponent.toNat) 1
  else
    let places := (-exponent).toNat
    if digits.log2 + 1200 < 3 * places then some nothing else nearest? digits (Nat.pow 10 places)

end Magnitude

namespace Double

/-- The double with the given sign, infinite when the magnitude overflows. -/
def ofMagnitude? (negative : Bool) : Option Magnitude → Double
  | some m => finite negative m
  | none => infinite negative

/-- The double nearest to a signed decimal number. -/
def ofDecimal (negative : Bool) (digits : Nat) (exponent : Int) : Double :=
  ofMagnitude? negative (Magnitude.ofDecimal? digits exponent)

/-- The double nearest to an integer, `none` when it is too large for one. -/
def ofInt? (n : Int) : Option Double :=
  (Magnitude.nearest? n.natAbs 1).map (finite (decide (n < 0)))

/-- Whether the double is a number other than the infinities. -/
def isFinite : Double → Bool
  | finite _ _ => true
  | _ => false

/-- Whether the double is zero, of either sign. -/
def isZero : Double → Bool
  | finite _ m => m.significand == 0
  | _ => false

/-- The integer that the double equals, if there is one. -/
def toInt? : Double → Option Int
  | finite negative m =>
    if m.units % Nat.pow 2 1074 = 0 then
      let n : Int := (m.units / Nat.pow 2 1074 : Nat)
      some (if negative then -n else n)
    else
      none
  | _ => none

end Double

end CommandBar
