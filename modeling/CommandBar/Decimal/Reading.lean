/-
Numbers as people type them.

A typed number may stand between blanks and may have a sign, a decimal point
with digits on at least one side of it, an exponent, and single underscores
between digits.  The information separators do not count as blanks here.
Decimal digits of any script count with their values.  The words `inf`,
`infinity` and `nan` are numbers too, in any mixture of cases.
-/
import CommandBar.Text.Blank
import CommandBar.Text.Digit
import CommandBar.Decimal.Double

namespace CommandBar

namespace Typed

/-- Whether the character may surround a number. -/
def isPadding (c : Char) : Bool :=
  Text.isBlank c && !(0x1C ≤ c.toNat && c.toNat ≤ 0x1F)

/-- The plain digit with the value of a digit of any script; other characters are kept. -/
def plain (c : Char) : Char :=
  match Text.digitValue? c with
  | some v => Char.ofNat (0x30 + v)
  | none => c

/-- Removes the underscores, each of which has to stand between two digits. -/
def joinDigits? : (afterDigit : Bool) → List Char → Option (List Char)
  | _, [] => some []
  | afterDigit, '_' :: rest =>
    match rest with
    | d :: _ => if afterDigit && d.isDigit then joinDigits? false rest else none
    | [] => none
  | _, c :: rest => (joinDigits? c.isDigit rest).map (c :: ·)

/-- Splits a sign off: whether the number is negative, and what follows. -/
def sign : List Char → Bool × List Char
  | '-' :: rest => (true, rest)
  | '+' :: rest => (false, rest)
  | cs => (false, cs)

/-- The value of an exponent with its mark, zero for no text at all. -/
def exponent? : List Char → Option Int
  | [] => some 0
  | mark :: rest =>
    if mark = 'e' ∨ mark = 'E' then
      let (negative, ds) := sign rest
      if ds ≠ [] ∧ ds.all Char.isDigit then
        let n : Int := Nat.ofDigitChars 10 ds 0
        some (if negative then -n else n)
      else
        none
    else
      none

/-- The digits after a decimal point, none without one, and what follows. -/
def fraction : List Char → List Char × List Char
  | '.' :: rest => rest.span Char.isDigit
  | cs => ([], cs)

/-- The value of an unsigned number. -/
def magnitude? (negative : Bool) (cs : List Char) : Option Double :=
  let (whole, rest) := cs.span Char.isDigit
  let (places, rest) := fraction rest
  if whole = [] ∧ places = [] then none
  else do
    let power ← exponent? rest
    some (.ofDecimal negative (Nat.ofDigitChars 10 (whole ++ places) 0) (power - places.length))

/-- The value of a number in words. -/
def word? (negative : Bool) (cs : List Char) : Option Double :=
  let w := cs.map Char.toLower
  if w = ['i', 'n', 'f'] ∨ w = ['i', 'n', 'f', 'i', 'n', 'i', 't', 'y'] then
    some (.infinite negative)
  else if w = ['n', 'a', 'n'] then some .nan
  else none

/-- The value of a typed number. -/
def number? (s : String) : Option Double := do
  let cs ← joinDigits? false ((Text.trimWhile isPadding s.toList).map plain)
  let (negative, rest) := sign cs
  (word? negative rest).orElse fun _ => magnitude? negative rest

end Typed

end CommandBar
