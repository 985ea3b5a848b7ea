/-
The shortest decimal text of a double.

Among the decimals that read back as the given magnitude the one with the fewest
digits is written, of those the nearest, and of two equally near the even one.
For each number of digits only the two neighbours of the exact value on that
decimal grid can be nearest, and whether one reads back is decided by reading
it, so what is written reads back by construction.  Seventeen digits always
suffice; the exact decimal expansion stands behind them so that no case is left
open.

A number between 10^-4 and 10^16 is written in positions, with at least one
place after the point; any other has one digit before the point and an exponent
with a sign and at least two digits.
-/
import CommandBar.Decimal.Double

namespace CommandBar

/-- The number `digits` times ten to the `exponent`. -/
structure Scientific where
  digits : Nat
  exponent : Int
deriving Repr, DecidableEq

namespace Scientific

/-- Whether reading the decimal gives the magnitude. -/
def readsAs (s : Scientific) (m : Magnitude) : Bool :=
  Magnitude.ofDecimal? s.digits s.exponent == some m

/-- The same number without zeros at the end of its digits; `fuel` bounds their count. -/
def stripZeros : Nat → Scientific → Scientific
  | 0, s => s
  | fuel + 1, s =>
    if s.digits % 10 = 0 then stripZeros fuel ⟨s.digits / 10, s.exponent + 1⟩ else s

end Scientific

namespace Magnitude

/-- How many digits stand before the decimal point: ten to this power is the least above the
magnitude.  It is negative when zeros follow the point. -/
def pointPosition (m : Magnitude) : Int :=
  ((Nat.toDigits 10 (m.units * Nat.pow 10 400 / Nat.pow 2 1074)).length : Int) - 400

/-- The nearest decimal with its last digit at the power `place` of ten that reads back. -/
def onGrid? (m : Magnitude) (place : Int) : Option Scientific :=
  let num := if place < 0 then m.units * Nat.pow 10 (-place).toNat else m.units
  let den := if place < 0 then Nat.pow 2 1074 else Nat.pow 2 1074 * Nat.pow 10 place.toNat
  let below : Scientific := ⟨num / den, place⟩
  let above : Scientific := ⟨num / den + 1, place⟩
  let nearer : Scientific := ⟨divNearest num den, place⟩
  let farther := if nearer = below then above else below
  if nearer.readsAs m then some nearer
  else if farther.readsAs m then some farther
  else none

/-- Every digit of the magnitude. -/
def exact (m : Magnitude) : Scientific :=
  ⟨m.units * Nat.pow 5 1074, -1074⟩

/-- The shortest decimal that reads back as the magnitude. -/
def shortest (m : Magnitude) : Scientific :=
  let found := (List.range 17).findSome? fun n => m.onGrid? (m.pointPosition - (n + 1 : Nat))
  (found.getD m.exact).stripZeros 400

end Magnitude

/-! ### Layout -/

/-- The decimal digits of an exponent, at least two. -/
def exponentDigits (n : Nat) : List Char :=
  if n < 10 then '0' :: Nat.toDigits 10 n else Nat.toDigits 10 n

/-- A positive decimal as text. -/
def Scientific.text (s : Scientific) : List Char :=
  let ds := Nat.toDigits 10 s.digits
  let point : Int := ds.length + s.exponent
  if -4 < point ∧ point ≤ 16 then
    if point ≤ 0 then
      '0' :: '.' :: List.replicate (-point).toNat '0' ++ ds
    else if (ds.length : Int) ≤ point then
      ds ++ List.replicate (point.toNat - ds.length) '0' ++ ['.', '0']
    else
      ds.take point.toNat ++ '.' :: ds.drop point.toNat
  else
    let power := point - 1
    let mark := if power < 0 then ['e', '-'] else ['e', '+']
    let fraction := if ds.length = 1 then [] else '.' :: ds.drop 1
    ds.take 1 ++ fraction ++ mark ++ exponentDigits power.natAbs

/-- The text of a magnitude. -/
def Magnitude.text (m : Magnitude) : List Char :=
  if m.significand = 0 then ['0', '.', '0'] else m.shortest.text

/-- How the numbers that are no finite double are spelt. -/
structure Spelling where
  nan : List Char
  infinity : List Char

/-- The text of a double. -/
def Double.text (spelling : Spelling) : Double → List Char
  | .nan => spelling.nan
  | .infinite negative => if negative then '-' :: spelling.infinity else spelling.infinity
  | .finite negative m => if negative then '-' :: m.text else m.text

/-- The text of an integer. -/
def intText (n : Int) : List Char :=
  if n < 0 then '-' :: Nat.toDigits 10 n.natAbs else Nat.toDigits 10 n.natAbs

end CommandBar
