/-
The steps of a template, and the pattern that they make.

A template becomes a row of steps.  A present word is set off from the words around
it by blanks: an optional one brings them along, behind it while no required word
has come and before it afterwards.

A group of alternatives is joined to the row around it.  The letters that all of
its alternatives start with come first and only once.  If one letter is left of
each alternative, that letter is looked up in a set, and otherwise the rests are
tried in their order.  A group that is nothing but such a set counts as one letter
of the group around it.  What is shared holds no field, so neither the order of
trying nor what is taken depends on the joining; only the way a letter beyond U+FFFF
is compared does.
-/
import CommandBar.Phrase.Pattern
import CommandBar.Phrase.Template

namespace CommandBar

namespace Phrase

namespace Pattern

/-- The letters that a step for one letter allows. -/
def letters? : Pattern → Option (List Char)
  | .letter c => some [c]
  | .oneOf cs => some cs
  | _ => none

/-- One step after another. -/
def ofSteps : List Pattern → Pattern
  | [] => .empty
  | step :: rest => .seq step (ofSteps rest)

/-- The first row of steps that fits. -/
def firstOf : List (List Pattern) → Pattern
  | [] => .empty
  | [row] => ofSteps row
  | row :: rest => .either (ofSteps row) (firstOf rest)

/-! ### Joining alternatives -/

/-- The rest of a row that starts with one of these letters. -/
def behind? (letters : List Char) : List Pattern → Option (List Pattern)
  | [] => none
  | step :: rest => if step.letters? = some letters then some rest else none

/-- The letters that a row and all others start with, and what is left of each. -/
def shared : List Pattern → List (List Pattern) → List Pattern × List (List Pattern)
  | [], others => ([], [] :: others)
  | step :: rest, others =>
    match step.letters?.bind fun letters => others.mapM (behind? letters) with
    | none => ([], (step :: rest) :: others)
    | some others =>
      let (front, rows) := shared rest others
      (step :: front, rows)

/-- The letters of a row that is one letter. -/
def single? : List Pattern → Option (List Char)
  | [step] => step.letters?
  | _ => none

/-- One of several rows: a letter of a set if each row is one letter. -/
def choice (rows : List (List Pattern)) : Pattern :=
  match rows.mapM single? with
  | some sets => .oneOf sets.flatten.eraseDups
  | none => firstOf rows

/-- The row that stands for a group of alternatives. -/
def join : List (List Pattern) → List Pattern
  | [] => []
  | [row] => row
  | row :: others =>
    let (front, rows) := shared row others
    front ++ [choice rows]

end Pattern

/-! ### Reading off the steps -/

mutual

/-- The steps of the words; `started` tells whether a required word has come before. -/
def Template.steps (started : Bool) : Template → List Pattern
  | .done => []
  | .required word rest =>
    (if started then .blanks :: word.steps else word.steps) ++ rest.steps true
  | .optional choices rest =>
    let group := Pattern.join choices.rows
    let present := if started then .blanks :: group else group ++ [.blanks]
    .either (.ofSteps present) .empty :: rest.steps started

/-- The steps of the parts of a word. -/
def Word.steps : Word → List Pattern
  | .done => []
  | .letter c rest => .letter c :: rest.steps
  | .field name rest => .field name :: rest.steps
  | .group choices rest => Pattern.join choices.rows ++ rest.steps

/-- The steps of each alternative. -/
def Choices.rows : Choices → List (List Pattern)
  | .done => []
  | .choice template rest => template.steps false :: rest.rows

end

/-- The pattern of a template. -/
def Template.pattern (t : Template) : Pattern :=
  .ofSteps (t.steps false)

end Phrase

end CommandBar
