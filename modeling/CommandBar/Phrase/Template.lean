/-
Templates of phrases.

A template is written as words between blanks.  A word consists of letters,
fields (`$name`) and groups of alternatives (`[one|other]`); blanks inside a group
do not end the word.  A word that is one whole group with an empty alternative is
optional.  Alternatives are templates again.

Reading splits at depth zero only.  Where a closing bracket has no partner the
depth is negative, so neither a blank nor a bar splits from there on, and the
bracket itself is a letter.  An opening bracket without a partner is an error,
which names the word it stands in.  Every group is shorter than the word around
it by its two brackets, so the length of the template bounds the nesting.
-/
import CommandBar.Error
import CommandBar.Fields
import CommandBar.Text.Blank
import CommandBar.Text.Name

namespace CommandBar

namespace Phrase

mutual

/-- The words of a template, in order. -/
inductive Template
  | done
  | required (word : Word) (rest : Template)
  | optional (choices : Choices) (rest : Template)

/-- The parts of a word, in order. -/
inductive Word
  | done
  | letter (c : Char) (rest : Word)
  | field (name : String) (rest : Word)
  | group (choices : Choices) (rest : Word)

/-- The alternatives of a group, in order. -/
inductive Choices
  | done
  | choice (template : Template) (rest : Choices)

end

/-! ### Splitting -/

/-- The bracket depth after a character. -/
def depthAfter (depth : Int) (c : Char) : Int :=
  if c = '[' then depth + 1 else if c = ']' then depth - 1 else depth

/-- The pieces of a text between the separators at depth zero, empty pieces included. -/
def pieces (separates : Char → Bool) : Int → List Char → List (List Char)
  | _, [] => [[]]
  | depth, c :: rest =>
    let depth := depthAfter depth c
    match pieces separates depth rest with
    | [] => [[c]]
    | first :: others =>
      if separates c && depth == 0 then [] :: first :: others else (c :: first) :: others

/-- The words of a template text. -/
def wordTexts (cs : List Char) : List (List Char) :=
  (pieces Text.isBlank 0 cs).filter (!·.isEmpty)

/-- The alternatives of a group text, trimmed. -/
def choiceTexts (cs : List Char) : List (List Char) :=
  (pieces (· == '|') 0 cs).map Text.trimChars

/-- Splits behind an opening bracket: what the group holds, and what follows it.  `depth` counts
the groups inside it that are open. -/
def closeGroup? : (depth : Nat) → List Char → Option (List Char × List Char)
  | _, [] => none
  | depth, c :: rest =>
    if c = ']' ∧ depth = 0 then some ([], rest)
    else
      let depth := if c = '[' then depth + 1 else if c = ']' then depth - 1 else depth
      (closeGroup? depth rest).map fun (inner, after) => (c :: inner, after)

/-- The field name at the front of a text. -/
def fieldName? (cs : List Char) : Option (List Char) :=
  match cs with
  | c :: _ => if Text.isNameStart c then some (cs.takeWhile Text.isWordChar) else none
  | [] => none

/-- What a word that is one whole group holds. -/
def wholeGroup? (word : List Char) : Option (List Char) :=
  match word with
  | '[' :: rest =>
    match closeGroup? 0 rest with
    | some (inner, []) => some inner
    | _ => none
  | _ => none

/-! ### Reading -/

/-- Reads the alternatives of a group. -/
def readChoices (readTemplate : List Char → Except Fault Template) :
    List (List Char) → Except Fault Choices
  | [] => .ok .done
  | text :: rest => do
    let template ← readTemplate text
    let choices ← readChoices readTemplate rest
    .ok (.choice template choices)

/-- Reads the parts of a word, passing over the first `skipped` characters; `word` is the whole
word, for the error. -/
def readParts (readTemplate : List Char → Except Fault Template) (word : List Char) :
    (skipped : Nat) → List Char → Except Fault Word
  | _, [] => .ok .done
  | skipped + 1, _ :: rest => readParts readTemplate word skipped rest
  | 0, c :: rest =>
    if c = '[' then
      match closeGroup? 0 rest with
      | none => .error (.unbalanced (String.ofList word))
      | some (inner, _) => do
        let choices ← readChoices readTemplate (choiceTexts inner)
        let parts ← readParts readTemplate word (inner.length + 1) rest
        .ok (.group choices parts)
    else
      match if c = '$' then fieldName? rest else none with
      | some name => do
        let parts ← readParts readTemplate word name.length rest
        .ok (.field (String.ofList name) parts)
      | none => do
        let parts ← readParts readTemplate word 0 rest
        .ok (.letter c parts)

/-- The alternatives of an optional word, the empty ones left out. -/
def optionalChoices? (word : List Char) : Option (List (List Char)) :=
  match wholeGroup? word with
  | some inner =>
    let texts := choiceTexts inner
    if texts.contains [] then some (texts.filter (!·.isEmpty)) else none
  | none => none

/-- Reads the words of a template. -/
def readWords (readTemplate : List Char → Except Fault Template) :
    List (List Char) → Except Fault Template
  | [] => .ok .done
  | word :: rest =>
    match optionalChoices? word with
    | some texts => do
      let choices ← readChoices readTemplate texts
      let template ← readWords readTemplate rest
      .ok (.optional choices template)
    | none => do
      let parts ← readParts readTemplate word 0 word
      let template ← readWords readTemplate rest
      .ok (.required parts template)

/-- Reads a template with groups nested less deeply than `fuel`. -/
def readTemplate : Nat → List Char → Except Fault Template
  | 0, _ => .ok .done
  | fuel + 1, cs => readWords (readTemplate fuel) (wordTexts cs)

/-- The template of a text. -/
def Template.ofText (text : String) : Except Fault Template :=
  readTemplate (text.length + 1) text.toList

end Phrase

end CommandBar
