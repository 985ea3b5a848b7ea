/-
Writing JSON values.

`render` writes JSON text on one line, with a blank after every comma and colon
and nothing but printable ASCII: other characters are escaped, most by their
UTF-16 units.
`literal` is the form that messages quote values in, and `plain` is the same
without quotes around a text.
-/
import CommandBar.Decimal.Shortest
import CommandBar.Json.Value
import CommandBar.Text.Quoted

namespace CommandBar

namespace Json

/-- The numbers that are no finite double, in JSON text. -/
def jsonSpelling : Spelling :=
  ⟨"NaN".toList, "Infinity".toList⟩

/-- The numbers that are no finite double, in messages. -/
def literalSpelling : Spelling :=
  ⟨"nan".toList, "inf".toList⟩

/-- The escape of one UTF-16 unit. -/
def unitEscape (n : Nat) : List Char :=
  '\\' :: 'u' :: Text.hexDigits 4 n

/-- How a character is written in a JSON string. -/
def escapeChar (c : Char) : List Char :=
  if c = '"' then ['\\', '"']
  else if c = '\\' then ['\\', '\\']
  else if c = '\n' then ['\\', 'n']
  else if c = '\r' then ['\\', 'r']
  else if c = '\t' then ['\\', 't']
  else if c.toNat = 8 then ['\\', 'b']
  else if c.toNat = 12 then ['\\', 'f']
  else if 0x20 ≤ c.toNat ∧ c.toNat < 0x7F then [c]
  else if c.toNat < 0x10000 then unitEscape c.toNat
  else
    let n := c.toNat - 0x10000
    unitEscape (0xD800 + n / 0x400) ++ unitEscape (0xDC00 + n % 0x400)

/-- A text as a JSON string. -/
def renderString (s : String) : List Char :=
  '"' :: s.toList.flatMap escapeChar ++ ['"']

mutual

/-- A value as JSON text. -/
def renderChars : Value → List Char
  | .null => "null".toList
  | .bool b => if b then "true".toList else "false".toList
  | .int n => intText n
  | .float x => x.text jsonSpelling
  | .str s => renderString s
  | .arr [] => ['[', ']']
  | .arr (item :: items) => '[' :: renderChars item ++ renderItems items
  | .obj [] => ['{', '}']
  | .obj ((name, value) :: members) =>
    '{' :: renderString name ++ ':' :: ' ' :: renderChars value ++ renderMembers members

/-- The elements after the first, with the closing bracket. -/
def renderItems : List Value → List Char
  | [] => [']']
  | item :: items => ',' :: ' ' :: renderChars item ++ renderItems items

/-- The members after the first, with the closing brace. -/
def renderMembers : List (String × Value) → List Char
  | [] => ['}']
  | (name, value) :: members =>
    ',' :: ' ' :: renderString name ++ ':' :: ' ' :: renderChars value ++ renderMembers members

end

/-- A value as JSON text. -/
def render (v : Value) : String :=
  String.ofList (renderChars v)

/-! ### Sorted members -/

/-- Puts a member in its place among members sorted by name. -/
def insertSorted (entry : String × Value) : List (String × Value) → List (String × Value)
  | [] => [entry]
  | other :: rest =>
    if other.1 < entry.1 then other :: insertSorted entry rest else entry :: other :: rest

mutual

/-- The value with the members of every object sorted by name. -/
def sorted : Value → Value
  | .arr items => .arr (sortedItems items)
  | .obj members => .obj (sortedMembers members)
  | v => v

/-- The list with every object in it sorted. -/
def sortedItems : List Value → List Value
  | [] => []
  | item :: items => sorted item :: sortedItems items

/-- The members sorted by name, and every object in them sorted. -/
def sortedMembers : List (String × Value) → List (String × Value)
  | [] => []
  | (name, value) :: members => insertSorted (name, sorted value) (sortedMembers members)

end

/-! ### Values in messages -/

mutual

/-- A value as messages quote it. -/
def literalChars : Value → List Char
  | .null => "None".toList
  | .bool b => if b then "True".toList else "False".toList
  | .int n => intText n
  | .float x => x.text literalSpelling
  | .str s => (Text.quoted s).toList
  | .arr [] => ['[', ']']
  | .arr (item :: items) => '[' :: literalChars item ++ literalItems items
  | .obj [] => ['{', '}']
  | .obj ((name, value) :: members) =>
    '{' :: (Text.quoted name).toList ++ ':' :: ' ' :: literalChars value ++
      literalMembers members

/-- The elements after the first, with the closing bracket. -/
def literalItems : List Value → List Char
  | [] => [']']
  | item :: items => ',' :: ' ' :: literalChars item ++ literalItems items

/-- The members after the first, with the closing brace. -/
def literalMembers : List (String × Value) → List Char
  | [] => ['}']
  | (name, value) :: members =>
    ',' :: ' ' :: (Text.quoted name).toList ++ ':' :: ' ' :: literalChars value ++
      literalMembers members

end

/-- A value as messages quote it. -/
def literal (v : Value) : String :=
  String.ofList (literalChars v)

/-- A value as messages show it: a text as it is, anything else quoted. -/
def plain : Value → String
  | .str s => s
  | v => literal v

end Json

end CommandBar
