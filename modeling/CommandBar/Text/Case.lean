/-
Comparing text without regard to case.

Four comparisons are in use.  Words are compared in lower case.  Titles and
choices are compared after folding, which may turn one character into several
(`ß` folds to `ss`).  Template letters are compared one character against one:
`sameLetter` lowers both and then identifies the members of a letter family, so
it is an equivalence by construction.  Looking a letter up in a set of letters is
the same within the first plane; beyond it the set is taken as it is written, and
only what is looked up is lowered.
-/
import CommandBar.Text.CaseTable

namespace CommandBar

namespace Text

/-- The simple lower case of a character. -/
def lowerChar (c : Char) : Char :=
  match CaseRun.find? c.toNat lowerRuns with
  | some n => Char.ofNat n
  | none => c

/-- The lower case of a character in running text: a dotted capital I keeps its dot. -/
def lowerChars (c : Char) : List Char :=
  if c.toNat = 0x130 then ['i', Char.ofNat 0x307] else [lowerChar c]

/-- The text in lower case, character by character. -/
def lower (s : String) : String :=
  String.ofList (s.toList.flatMap lowerChars)

/-- The folding of one character. -/
def foldChar (c : Char) : List Char :=
  match foldExpansions.lookup c.toNat with
  | some ns => ns.map Char.ofNat
  | none =>
    match CaseRun.find? c.toNat foldRuns with
    | some n => [Char.ofNat n]
    | none => [lowerChar c]

/-- The text folded for comparison without regard to case. -/
def fold (s : String) : String :=
  String.ofList (s.toList.flatMap foldChar)

/-- The representative of the characters that match `c` ignoring case. -/
def letterKey (c : Char) : Nat :=
  let n := (lowerChar c).toNat
  (letterFamilies.lookup n).getD n

/-- Whether two characters are the same letter, ignoring case. -/
def sameLetter (a b : Char) : Bool :=
  letterKey a == letterKey b

/-- Whether a set that lists `c` has the letter `d`, ignoring case.  Beyond U+FFFF it has what
becomes `c` in lower case, which is nothing if `c` is a capital. -/
def listsLetter (c d : Char) : Bool :=
  if c.toNat ≤ 0xFFFF then sameLetter c d else lowerChar d == c

theorem sameLetter_refl (a : Char) : sameLetter a a = true := by
  simp [sameLetter]

end Text

end CommandBar
