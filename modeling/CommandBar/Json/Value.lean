/-
JSON values.

Numbers come in two kinds, integers of any size and doubles, and the two are
never equal: `1` and `1.0` are different values.  The members of an object have
an order.  Equality is decided by comparing structure, so it is equality of
values including that order.
-/
import CommandBar.Decimal.Double
import CommandBar.Fields

namespace CommandBar

namespace Json

/-- A JSON value. -/
inductive Value
  | null
  | bool (b : Bool)
  | int (n : Int)
  | float (x : Double)
  | str (s : String)
  | arr (items : List Value)
  | obj (members : List (String × Value))

instance : Inhabited Value := ⟨.null⟩

namespace Value

/-! ### Equality -/

mutual

/-- Whether two values are the same. -/
def same : Value → Value → Bool
  | .null, .null => true
  | .bool a, .bool b => a == b
  | .int m, .int n => m == n
  | .float x, .float y => x == y
  | .str s, .str t => s == t
  | .arr xs, .arr ys => sameItems xs ys
  | .obj xs, .obj ys => sameMembers xs ys
  | _, _ => false

/-- Whether two lists hold the same values. -/
def sameItems : List Value → List Value → Bool
  | [], [] => true
  | x :: xs, y :: ys => same x y && sameItems xs ys
  | _, _ => false

/-- Whether two objects hold the same members in the same order. -/
def sameMembers : List (String × Value) → List (String × Value) → Bool
  | [], [] => true
  | (k, x) :: xs, (l, y) :: ys => k == l && same x y && sameMembers xs ys
  | _, _ => false

end

mutual

theorem same_eq_true_iff : ∀ a b : Value, same a b = true ↔ a = b
  | .null, b => by cases b <;> simp [same]
  | .bool _, b => by cases b <;> simp [same]
  | .int _, b => by cases b <;> simp [same]
  | .float _, b => by cases b <;> simp [same]
  | .str _, b => by cases b <;> simp [same]
  | .arr xs, b => by
    cases b with
    | arr ys => simpa [same] using sameItems_eq_true_iff xs ys
    | _ => simp [same]
  | .obj xs, b => by
    cases b with
    | obj ys => simpa [same] using sameMembers_eq_true_iff xs ys
    | _ => simp [same]

theorem sameItems_eq_true_iff : ∀ xs ys : List Value, sameItems xs ys = true ↔ xs = ys
  | [], ys => by cases ys <;> simp [sameItems]
  | x :: xs, ys => by
    cases ys with
    | nil => simp [sameItems]
    | cons y ys => simp [sameItems, same_eq_true_iff x y, sameItems_eq_true_iff xs ys]

theorem sameMembers_eq_true_iff :
    ∀ xs ys : List (String × Value), sameMembers xs ys = true ↔ xs = ys
  | [], ys => by cases ys <;> simp [sameMembers]
  | (k, x) :: xs, ys => by
    cases ys with
    | nil => simp [sameMembers]
    | cons entry ys =>
      obtain ⟨l, y⟩ := entry
      simp [sameMembers, same_eq_true_iff x y, sameMembers_eq_true_iff xs ys]

end

instance : DecidableEq Value := fun a b =>
  decidable_of_iff (same a b = true) (same_eq_true_iff a b)

/-! ### Reading values -/

/-- The member of that name, `null` for none. -/
def member (members : Fields Value) (name : String) : Value :=
  (Fields.get? name members).getD .null

/-- Whether the value counts as present: anything but null, false, a zero or an empty text,
list or object. -/
def isTruthy : Value → Bool
  | .null => false
  | .bool b => b
  | .int n => n != 0
  | .float x => !x.isZero
  | .str s => s != ""
  | .arr items => !items.isEmpty
  | .obj members => !members.isEmpty

/-- A text that may be missing, `null` without one. -/
def ofText? : Option String → Value
  | some s => .str s
  | none => .null

/-- The name of the value's kind in messages. -/
def kindName : Value → String
  | .null => "NoneType"
  | .bool _ => "bool"
  | .int _ => "int"
  | .float _ => "float"
  | .str _ => "str"
  | .arr _ => "list"
  | .obj _ => "dict"

end Value

end Json

end CommandBar
