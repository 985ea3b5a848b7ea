/-
Fences around a reply.

Models like to wrap their answer in a Markdown fence even when asked not to.
Peeling takes the fence that opens a text, with its language tag and the rest of
a blank line, and the fence that closes it, with the line break before it, and
trims what is left.  Peeling never lengthens a text, so repeating it until
nothing changes ends within as many steps as the text has characters.
-/
import CommandBar.Text.Blank

namespace CommandBar

namespace Reply

/-- Whether the character can belong to the language tag of a fence. -/
def isTagChar (c : Char) : Bool :=
  c.isAlphanum || c == '_' || c == '+' || c == '-'

/-- The text without the line break at its front. -/
def dropLineBreak : List Char → List Char
  | '\r' :: '\n' :: rest => rest
  | '\n' :: rest => rest
  | cs => cs

/-- The text without the fence that opens it. -/
def dropOpening : List Char → List Char
  | '`' :: '`' :: '`' :: rest =>
    dropLineBreak ((rest.dropWhile isTagChar).dropWhile fun c => c == ' ' || c == '\t')
  | cs => cs

/-- The reversed text without the fence that closes the text. -/
def dropClosingReversed : List Char → List Char
  | '`' :: '`' :: '`' :: '\n' :: '\r' :: rest => rest
  | '`' :: '`' :: '`' :: '\n' :: rest => rest
  | '`' :: '`' :: '`' :: rest => rest
  | cs => cs

/-- The text without the fence that closes it. -/
def dropClosing (cs : List Char) : List Char :=
  (dropClosingReversed cs.reverse).reverse

/-- The text without one pair of fences, trimmed. -/
def peel (cs : List Char) : List Char :=
  Text.trimChars (dropClosing (dropOpening cs))

/-- Peels until nothing changes, at most `fuel` times. -/
def peelAll : Nat → List Char → List Char
  | 0, cs => cs
  | fuel + 1, cs =>
    let peeled := peel cs
    if peeled = cs then cs else peelAll fuel peeled

/-- The text without blanks and fences around it. -/
def unfenceChars (cs : List Char) : List Char :=
  peelAll (cs.length + 1) (Text.trimChars cs)

/-- The text without blanks and fences around it. -/
def unfence (raw : String) : String :=
  String.ofList (unfenceChars raw.toList)

end Reply

end CommandBar
