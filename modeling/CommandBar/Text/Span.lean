/-
Spans of code points.

A Unicode property is a list of disjoint spans in ascending order, so a look-up
can stop at the first span that starts beyond the code point.
-/

namespace CommandBar

namespace Text

/-- The code points from `first` to `last`, both included. -/
structure Span where
  first : Nat
  last : Nat
deriving Repr, DecidableEq

/-- Whether the code point lies in the span. -/
def Span.holds (s : Span) (n : Nat) : Bool :=
  s.first ≤ n && n ≤ s.last

/-- Whether a span of an ascending list holds the code point. -/
def Span.anyHolds : List Span → Nat → Bool
  | [], _ => false
  | s :: rest, n => if n < s.first then false else n ≤ s.last || anyHolds rest n

end Text

end CommandBar
