/-
Patterns and how they match.

A pattern is matched from the front of a text by trying its possibilities in a
fixed order: of two alternatives the first comes first, a run of blanks is tried
longest first, a field shortest first.  `run` hands the rest of the text and the
fields taken so far to a continuation and returns the first result that any
possibility leads to, so an inner choice is revised when what follows it fails.
It recurses on the pattern, and inside a run of blanks or a field on the text.
-/
import CommandBar.Text.Blank
import CommandBar.Text.Case

namespace CommandBar

namespace Phrase

/-- What the front of a text can look like. -/
inductive Pattern
  /-- Nothing. -/
  | empty
  /-- One letter, in any case. -/
  | letter (c : Char)
  /-- One letter that is looked up in a set. -/
  | oneOf (cs : List Char)
  /-- One or more blanks. -/
  | blanks
  /-- One or more characters of a line, kept under a name. -/
  | field (name : String)
  /-- One pattern and then another. -/
  | seq (first second : Pattern)
  /-- One pattern or another. -/
  | either (first second : Pattern)

/-- Named parts of a text, in the order they were taken. -/
abbrev Captures := List (String × List Char)

section Run

variable {β : Type}

/-- Tries runs of one or more blanks, the longest first. -/
def runBlanks (next : List Char → Option β) : List Char → Option β
  | [] => none
  | c :: rest =>
    if Text.isBlank c then
      match runBlanks next rest with
      | some result => some result
      | none => next rest
    else none

/-- Tries fields of one or more characters of a line behind `taken`, the shortest first. -/
def runField (next : List Char → List Char → Option β) (taken : List Char) :
    List Char → Option β
  | [] => none
  | c :: rest =>
    if c = '\n' then none
    else
      match next (taken ++ [c]) rest with
      | some result => some result
      | none => runField next (taken ++ [c]) rest

/-- The first result that a match of the pattern at the front of the text leads to. -/
def Pattern.run : Pattern → List Char → Captures → (List Char → Captures → Option β) → Option β
  | .empty, cs, taken, next => next cs taken
  | .letter c, cs, taken, next =>
    match cs with
    | d :: rest => if Text.sameLetter c d then next rest taken else none
    | [] => none
  | .oneOf letters, cs, taken, next =>
    match cs with
    | d :: rest => if letters.any (Text.listsLetter · d) then next rest taken else none
    | [] => none
  | .blanks, cs, taken, next => runBlanks (fun rest => next rest taken) cs
  | .field name, cs, taken, next =>
    runField (fun text rest => next rest (taken ++ [(name, text)])) [] cs
  | .seq first second, cs, taken, next =>
    first.run cs taken fun rest taken => second.run rest taken next
  | .either first second, cs, taken, next =>
    match first.run cs taken next with
    | some result => some result
    | none => second.run cs taken next

end Run

end Phrase

end CommandBar
