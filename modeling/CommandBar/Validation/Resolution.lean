/-
Which widget is meant.

An id decides before a title, a title before a type.  A title is compared without
regard to case, and only when no widget has the id; a type counts only when
neither is given.  At the deciding step exactly one widget has to match: the first
of several is never picked.
-/
import CommandBar.Catalog.Standard
import CommandBar.Text.Case
import CommandBar.Validation.Refusal
import CommandBar.Widget

namespace CommandBar

namespace Resolution

/-- The widgets with the id of a reference. -/
def withId (ref : Target) (widgets : List Widget) : List Widget :=
  match ref.id with
  | some id => widgets.filter fun w => w.id == id
  | none => []

/-- The widgets with the title of a reference. -/
def withTitle (ref : Target) (widgets : List Widget) : List Widget :=
  match ref.title with
  | some title => widgets.filter fun w => Text.fold w.title == Text.fold title
  | none => []

/-- The widgets that a reference can mean. -/
def candidates (ref : Target) (widgets : List Widget) : List Widget :=
  match withId ref widgets with
  | [] => withTitle ref widgets
  | found => found

/-- The only widget of a list. -/
def single (described : String) : List Widget → Except Fault Widget
  | [] => (Refusal.noMatch described).raise
  | [w] => .ok w
  | several => (Refusal.manyMatches several.length described).raise

/-- The widget that is meant by a reference, or by its type where there is none.  Types are
described by the names of the standard catalog. -/
def resolve (ref : Option Target) (type : Option String) (widgets : List Widget) :
    Except Fault Widget :=
  match ref, type with
  | some ref, _ => single ref.describe (candidates ref widgets)
  | none, some type =>
    single (Catalog.standard.displayName type ++ " widget")
      (widgets.filter fun w => w.type == type)
  | none, none => Refusal.noTarget.raise

end Resolution

end CommandBar
