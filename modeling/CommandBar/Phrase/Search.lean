/-
Looking for a phrase in an utterance.

Blanks around the utterance and the sentence marks at its end are ignored.  The
phrase may start at the front or behind any blank, the first such place that
leads to a match counts, and it has to reach the end, where one line break may be
left over.
-/
import CommandBar.Phrase.Steps

namespace CommandBar

namespace Phrase

/-- Whether the character is a mark that may end a sentence. -/
def isSentenceMark (c : Char) : Bool :=
  c == '?' || c == '!' || c == '.' || c == ','

/-- The part of an utterance that is searched. -/
def searched (text : String) : List Char :=
  Text.dropEndWhile isSentenceMark (Text.trimChars text.toList)

/-- What follows each blank of a text, the first blank first. -/
def afterBlanks : List Char → List (List Char)
  | [] => []
  | c :: rest => if Text.isBlank c then rest :: afterBlanks rest else afterBlanks rest

/-- Accepts the fields when the text is used up, but for one line break. -/
def atEnd (rest : List Char) (taken : Captures) : Option Captures :=
  if rest = [] ∨ rest = ['\n'] then some taken else none

/-- The fields of the first match of a pattern that reaches the end. -/
def Pattern.search? (p : Pattern) (cs : List Char) : Option Captures :=
  (cs :: afterBlanks cs).findSome? fun start => p.run start [] atEnd

/-- The fields with their texts trimmed, a repeated name keeping its last text. -/
def fieldTexts (taken : Captures) : Fields String :=
  Fields.ofPairs (taken.map fun (name, text) => (name, String.ofList (Text.trimChars text)))

/-- The fields of a phrase found in a text. -/
def Template.search? (t : Template) (text : String) : Option (Fields String) :=
  (t.pattern.search? (searched text)).map fieldTexts

/-- The fields of the first phrase of a list that is found in a text; phrases behind it are not
read. -/
def searchAny : List String → String → Except Fault (Option (Fields String))
  | [], _ => .ok none
  | phrase :: rest, text => do
    let template ← Template.ofText phrase
    match template.search? text with
    | some fields => .ok (some fields)
    | none => searchAny rest text

end Phrase

end CommandBar
