/-
Reading JSON text.

A value is read from the front of the text and what follows it is handed on.
When reading stops, the error carries the rest of the text from the offending
character on, so its position is what is missing from that rest.

Beyond the standard the words `NaN`, `Infinity` and `-Infinity` are numbers.  A
number without fraction and exponent is an integer, of at most 4300 digits; any
other number is the nearest double.  Of the members of an object with one name
the last value counts, at the place of the first.

Nesting is the only recursion that is not on the text itself.  Its fuel starts at
twice the length of the text, and every level and every element takes at least a
character, so it never runs out.
-/
import CommandBar.Json.Value

namespace CommandBar

namespace Json

/-! ### Errors -/

/-- What can be wrong at a place in the text. -/
inductive Problem
  | byteOrderMark
  | value
  | extraData
  | propertyName
  | colon
  | comma
  | unterminatedString
  | controlCharacter
  | escape
  | unicodeEscape
deriving Repr, DecidableEq

/-- How a problem is reported. -/
def Problem.message : Problem → String
  | .byteOrderMark => "Unexpected UTF-8 BOM (decode using utf-8-sig)"
  | .value => "Expecting value"
  | .extraData => "Extra data"
  | .propertyName => "Expecting property name enclosed in double quotes"
  | .colon => "Expecting ':' delimiter"
  | .comma => "Expecting ',' delimiter"
  | .unterminatedString => "Unterminated string starting at"
  | .controlCharacter => "Invalid control character at"
  | .escape => "Invalid \\escape"
  | .unicodeEscape => "Invalid \\uXXXX escape"

/-- Why a text is no JSON value. -/
inductive ReadError
  /-- A problem, with the text from its place on. -/
  | malformed (problem : Problem) (rest : List Char)
  /-- An integer with too many digits. -/
  | tooManyDigits (count : Nat)
deriving Repr, DecidableEq

/-- The greatest number of digits of an integer. -/
def digitLimit : Nat := 4300

/-- The number of characters since the last line break. -/
def columnAfter (before : List Char) : Nat :=
  (before.reverse.takeWhile (· != '\n')).length

/-- How an error in `text` is reported. -/
def ReadError.message (text : List Char) : ReadError → String
  | .malformed problem rest =>
    let position := text.length - rest.length
    let before := text.take position
    let line := before.count '\n' + 1
    let column := columnAfter before + 1
    s!"{problem.message}: line {line} column {column} (char {position})"
  | .tooManyDigits count =>
    s!"Exceeds the limit ({digitLimit} digits) for integer string conversion: " ++
      s!"value has {count} digits; use sys.set_int_max_str_digits() to increase the limit"

/-- The outcome of reading from the front of a text: a result and what follows it. -/
abbrev Reading (α : Type) := Except ReadError (α × List Char)

/-- Whether the character is white space between the parts of a JSON text. -/
def isSpace (c : Char) : Bool :=
  c == ' ' || c == '\t' || c == '\r' || c == '\n'

/-- The text without the white space at its front. -/
def skip (cs : List Char) : List Char :=
  cs.dropWhile isSpace

/-! ### Strings -/

/-- The value of a hexadecimal digit. -/
def hexValue? (c : Char) : Option Nat :=
  let n := c.toNat
  if 0x30 ≤ n ∧ n ≤ 0x39 then some (n - 0x30)
  else if 0x41 ≤ n ∧ n ≤ 0x46 then some (n - 0x41 + 10)
  else if 0x61 ≤ n ∧ n ≤ 0x66 then some (n - 0x61 + 10)
  else none

/-- The value of four hexadecimal digits. -/
def hexUnit? (a b c d : Char) : Option Nat := do
  let a ← hexValue? a
  let b ← hexValue? b
  let c ← hexValue? c
  let d ← hexValue? d
  some (((a * 16 + b) * 16 + c) * 16 + d)

/-- Whether the unit is the first half of a pair. -/
def isHighHalf (n : Nat) : Bool :=
  0xD800 ≤ n && n ≤ 0xDBFF

/-- Whether the unit is the second half of a pair. -/
def isLowHalf (n : Nat) : Bool :=
  0xDC00 ≤ n && n ≤ 0xDFFF

/-- The character that a pair of halves stands for. -/
def joinHalves (high low : Nat) : Char :=
  Char.ofNat (0x10000 + (high - 0xD800) * 0x400 + (low - 0xDC00))

/-- The character of a single unit; a half without its partner has none and is replaced.  So no text
holds a lone half, and the failure to print or to write one has no counterpart here. -/
def unitChar (n : Nat) : Char :=
  if isHighHalf n || isLowHalf n then Char.ofNat 0xFFFD else Char.ofNat n

/-- The character that a short escape stands for. -/
def shortEscape? (c : Char) : Option Char :=
  match c with
  | '"' => some '"'
  | '\\' => some '\\'
  | '/' => some '/'
  | 'b' => some (Char.ofNat 8)
  | 'f' => some (Char.ofNat 12)
  | 'n' => some '\n'
  | 'r' => some '\r'
  | 't' => some '\t'
  | _ => none

/-- Joins each pair of halves to the character it stands for. -/
def joinUnits : List Nat → List Char
  | [] => []
  | [n] => [unitChar n]
  | n :: m :: rest =>
    if isHighHalf n && isLowHalf m then joinHalves n m :: joinUnits rest
    else unitChar n :: joinUnits (m :: rest)

/-- Puts a unit in front of what has been read. -/
def Reading.cons (n : Nat) : Reading (List Nat) → Reading (List Nat)
  | .ok (units, rest) => .ok (n :: units, rest)
  | .error e => .error e

/-- The units of a string up to its closing quote; `opening` is the text from the opening quote
on.  The digits of an escape are looked at only when more text follows them. -/
def readUnits (opening : List Char) : List Char → Reading (List Nat)
  | [] => .error (.malformed .unterminatedString opening)
  | '"' :: rest => .ok ([], rest)
  | '\\' :: [] => .error (.malformed .unterminatedString opening)
  | '\\' :: 'u' :: a :: b :: c :: d :: x :: rest =>
    match hexUnit? a b c d with
    | some n => .cons n (readUnits opening (x :: rest))
    | none => .error (.malformed .unicodeEscape ('u' :: a :: b :: c :: d :: x :: rest))
  | '\\' :: 'u' :: rest => .error (.malformed .unicodeEscape ('u' :: rest))
  | '\\' :: c :: rest =>
    match shortEscape? c with
    | some e => .cons e.toNat (readUnits opening rest)
    | none => .error (.malformed .escape ('\\' :: c :: rest))
  | c :: rest =>
    if c.toNat < 0x20 then .error (.malformed .controlCharacter (c :: rest))
    else .cons c.toNat (readUnits opening rest)

/-- The text of a string up to its closing quote. -/
def readString (opening cs : List Char) : Reading String :=
  match readUnits opening cs with
  | .ok (units, rest) => .ok (String.ofList (joinUnits units), rest)
  | .error e => .error e

/-! ### Words and numbers -/

/-- The values that are written as words. -/
def wordValues : List (List Char × Value) := [
  ("null".toList, .null), ("true".toList, .bool true), ("false".toList, .bool false),
  ("NaN".toList, .float .nan), ("Infinity".toList, .float (.infinite false)),
  ("-Infinity".toList, .float (.infinite true))]

/-- The word at the front of the text, and what follows it. -/
def readWord? (cs : List Char) : Option (Value × List Char) :=
  wordValues.findSome? fun (word, value) =>
    if word.isPrefixOf cs then some (value, cs.drop word.length) else none

/-- The digits before the point: a single zero, or digits that start with another. -/
def wholeDigits (cs : List Char) : List Char × List Char :=
  match cs with
  | '0' :: rest => (['0'], rest)
  | _ => cs.span Char.isDigit

/-- The digits after a point that is followed by a digit; otherwise nothing is taken. -/
def fractionDigits (cs : List Char) : List Char × List Char :=
  match cs with
  | '.' :: rest =>
    match rest.span Char.isDigit with
    | ([], _) => ([], cs)
    | taken => taken
  | _ => ([], cs)

/-- The value of an exponent that has digits; otherwise nothing is taken. -/
def exponentValue? (cs : List Char) : Option (Int × List Char) :=
  match cs with
  | mark :: rest =>
    if mark = 'e' ∨ mark = 'E' then
      let (negative, rest) :=
        match rest with
        | '-' :: rest => (true, rest)
        | '+' :: rest => (false, rest)
        | _ => (false, rest)
      match rest.span Char.isDigit with
      | ([], _) => none
      | (ds, rest) =>
        let n : Int := Nat.ofDigitChars 10 ds 0
        some (if negative then -n else n, rest)
    else
      none
  | [] => none

/-- A number at the front of the text. -/
def readNumber (cs : List Char) : Reading Value :=
  let (negative, unsigned) :=
    match cs with
    | '-' :: rest => (true, rest)
    | _ => (false, cs)
  match wholeDigits unsigned with
  | ([], _) => .error (.malformed .value cs)
  | (whole, rest) =>
    let (places, rest) := fractionDigits rest
    let digits := Nat.ofDigitChars 10 (whole ++ places) 0
    match exponentValue? rest with
    | some (power, rest) => .ok (.float (.ofDecimal negative digits (power - places.length)), rest)
    | none =>
      if places ≠ [] then .ok (.float (.ofDecimal negative digits (-places.length)), rest)
      else if digitLimit < whole.length then .error (.tooManyDigits whole.length)
      else
        let n : Int := digits
        .ok (.int (if negative then -n else n), rest)

/-! ### Values -/

mutual

/-- The value at the front of the text. -/
def readValue : Nat → List Char → Reading Value
  | 0, cs => .error (.malformed .value cs)
  | fuel + 1, cs =>
    match cs with
    | '"' :: rest =>
      match readString cs rest with
      | .ok (s, rest) => .ok (.str s, rest)
      | .error e => .error e
    | '[' :: rest =>
      match skip rest with
      | ']' :: rest => .ok (.arr [], rest)
      | rest =>
        match readItems fuel rest with
        | .ok (items, rest) => .ok (.arr items, rest)
        | .error e => .error e
    | '{' :: rest =>
      match skip rest with
      | '}' :: rest => .ok (.obj [], rest)
      | rest =>
        match readMembers fuel rest with
        | .ok (members, rest) => .ok (.obj (Fields.ofPairs members), rest)
        | .error e => .error e
    | _ =>
      match readWord? cs with
      | some taken => .ok taken
      | none => readNumber cs

/-- The elements of a list up to its closing bracket. -/
def readItems : Nat → List Char → Reading (List Value)
  | 0, cs => .error (.malformed .value cs)
  | fuel + 1, cs =>
    match readValue fuel cs with
    | .error e => .error e
    | .ok (item, rest) =>
      match skip rest with
      | ']' :: rest => .ok ([item], rest)
      | ',' :: rest =>
        match readItems fuel (skip rest) with
        | .ok (items, rest) => .ok (item :: items, rest)
        | .error e => .error e
      | rest => .error (.malformed .comma rest)

/-- The members of an object up to its closing brace, as they are written. -/
def readMembers : Nat → List Char → Reading (List (String × Value))
  | 0, cs => .error (.malformed .value cs)
  | fuel + 1, cs =>
    match cs with
    | '"' :: rest =>
      match readString cs rest with
      | .error e => .error e
      | .ok (name, rest) =>
        match skip rest with
        | ':' :: rest =>
          match readValue fuel (skip rest) with
          | .error e => .error e
          | .ok (value, rest) =>
            match skip rest with
            | '}' :: rest => .ok ([(name, value)], rest)
            | ',' :: rest =>
              match readMembers fuel (skip rest) with
              | .ok (members, rest) => .ok ((name, value) :: members, rest)
              | .error e => .error e
            | rest => .error (.malformed .comma rest)
        | rest => .error (.malformed .colon rest)
    | _ => .error (.malformed .propertyName cs)

end

/-- Reads a whole text as one value. -/
def readChars (cs : List Char) : Except ReadError Value :=
  if cs.head? = some (Char.ofNat 0xFEFF) then .error (.malformed .byteOrderMark cs)
  else
    match readValue (2 * cs.length + 2) (skip cs) with
    | .error e => .error e
    | .ok (value, rest) =>
      match skip rest with
      | [] => .ok value
      | rest => .error (.malformed .extraData rest)

/-- Reads a text as JSON, or says in words why it is none. -/
def read (text : String) : Except String Value :=
  let cs := text.toList
  (readChars cs).mapError (ReadError.message cs)

end Json

end CommandBar
