/-
Values up to the order of their members.

Two values are the same but for the order of members if one turns into the other by
permuting the members of objects, at any depth.  Sorting is such a permutation, level
by level, so the sorted form of a value determines the value up to that order.  It is
the sorted form that the oracle is shown.

Where no name occurs twice the order determines nothing either: two members of different
names can be put in their places in either order, so all orders of the members have one
sorted form.  Of two members with one name the first stays the first, and then the order
does show.
-/
import CommandBar.Proofs.Rendering
import Mathlib.Data.List.Nodup
import Mathlib.Data.List.Perm.Basic

namespace CommandBar

namespace Json

/-- The values differ at most in the order of members, at whatever depth. -/
inductive Reordered : Value → Value → Prop
  | refl (v : Value) : Reordered v v
  | symm {v w : Value} (h : Reordered v w) : Reordered w v
  | trans {v w x : Value} (h : Reordered v w) (h' : Reordered w x) : Reordered v x
  /-- Within one element of a list. -/
  | item (front back : List Value) {v w : Value} (h : Reordered v w) :
      Reordered (.arr (front ++ v :: back)) (.arr (front ++ w :: back))
  /-- Within one member of an object. -/
  | member (front back : List (String × Value)) (name : String) {v w : Value}
      (h : Reordered v w) :
      Reordered (.obj (front ++ (name, v) :: back)) (.obj (front ++ (name, w) :: back))
  /-- Among the members of an object. -/
  | perm {members others : List (String × Value)} (h : members.Perm others) :
      Reordered (.obj members) (.obj others)

/-! ### Sorting -/

theorem insertSorted_perm (entry : String × Value) (members : List (String × Value)) :
    (insertSorted entry members).Perm (entry :: members) := by
  induction members with
  | nil => exact .refl _
  | cons other rest ih =>
      unfold insertSorted
      split
      · exact (ih.cons other).trans (.swap entry other rest)
      · exact .refl _

theorem sortedItems_eq_map (items : List Value) : sortedItems items = items.map sorted := by
  induction items with
  | nil => rfl
  | cons item items ih => rw [sortedItems, ih, List.map_cons]

theorem sortedMembers_perm (members : List (String × Value)) :
    (sortedMembers members).Perm (members.map fun member => (member.1, sorted member.2)) := by
  induction members with
  | nil => exact .refl _
  | cons member members ih =>
      obtain ⟨name, value⟩ := member
      rw [sortedMembers, List.map_cons]
      exact (insertSorted_perm _ _).trans (ih.cons _)

mutual

/-- A value is sorted by changing the order of members only. -/
theorem reordered_sorted : ∀ v : Value, Reordered v (sorted v)
  | .null => .refl _
  | .bool _ => .refl _
  | .int _ => .refl _
  | .float _ => .refl _
  | .str _ => .refl _
  | .arr items => reordered_sortedItems [] items
  | .obj members => reordered_sortedMembers [] members

/-- So are the elements of a list behind others. -/
theorem reordered_sortedItems : ∀ front items : List Value,
    Reordered (.arr (front ++ items)) (.arr (front ++ sortedItems items))
  | _, [] => .refl _
  | front, item :: items => by
    have hfirst := Reordered.item front items (reordered_sorted item)
    have hrest := reordered_sortedItems (front ++ [sorted item]) items
    simp only [List.append_assoc, List.singleton_append] at hrest
    exact hfirst.trans hrest

/-- So are the members of an object behind others. -/
theorem reordered_sortedMembers : ∀ front members : List (String × Value),
    Reordered (.obj (front ++ members)) (.obj (front ++ sortedMembers members))
  | _, [] => .refl _
  | front, (name, value) :: members => by
    have hfirst := Reordered.member front members name (reordered_sorted value)
    have hrest := reordered_sortedMembers (front ++ [(name, sorted value)]) members
    simp only [List.append_assoc, List.singleton_append] at hrest
    have hplace := (insertSorted_perm (name, sorted value) (sortedMembers members)).symm
    exact (hfirst.trans hrest).trans (.perm (hplace.append_left front))

end

/-- **The sorted form determines the value up to the order of members.** -/
theorem Reordered.of_sorted_eq {v w : Value} (h : sorted v = sorted w) : Reordered v w :=
  (reordered_sorted v).trans (h ▸ (reordered_sorted w).symm)

/-! ### One sorted form -/

/-- No object in the value has two members of one name. -/
inductive Distinct : Value → Prop
  | null : Distinct .null
  | bool (b : Bool) : Distinct (.bool b)
  | int (n : Int) : Distinct (.int n)
  | float (x : Double) : Distinct (.float x)
  | str (s : String) : Distinct (.str s)
  | arr {items : List Value} (each : ∀ item ∈ items, Distinct item) : Distinct (.arr items)
  | obj {members : List (String × Value)} (names : (Fields.names members).Nodup)
      (each : ∀ member ∈ members, Distinct member.2) : Distinct (.obj members)

theorem distinct_arr_iff {items : List Value} :
    Distinct (.arr items) ↔ ∀ item ∈ items, Distinct item :=
  ⟨fun h => by cases h with | arr each => exact each, .arr⟩

theorem distinct_obj_iff {members : List (String × Value)} :
    Distinct (.obj members) ↔
      (Fields.names members).Nodup ∧ ∀ member ∈ members, Distinct member.2 :=
  ⟨fun h => by cases h with | obj names each => exact ⟨names, each⟩, fun h => .obj h.1 h.2⟩

/-- The order of members has no part in that. -/
theorem Reordered.distinct_iff {v w : Value} (h : Reordered v w) : Distinct v ↔ Distinct w := by
  induction h with
  | refl v => exact Iff.rfl
  | symm _ ih => exact ih.symm
  | trans _ _ ih ih' => exact ih.trans ih'
  | item front back _ ih =>
      simp only [distinct_arr_iff, List.forall_mem_append, List.forall_mem_cons, ih]
  | member front back name _ ih =>
      simp only [distinct_obj_iff, Fields.names, List.map_append, List.map_cons,
        List.forall_mem_append, List.forall_mem_cons, ih]
  | perm h =>
      have hnames := (h.map Prod.fst).nodup_iff
      simp only [distinct_obj_iff, Fields.names, hnames, h.mem_iff]

/-- Members of different names can be put in their places in either order. -/
theorem insertSorted_comm {a b : String × Value} (hne : a.1 ≠ b.1)
    (members : List (String × Value)) :
    insertSorted a (insertSorted b members) = insertSorted b (insertSorted a members) := by
  -- the two names are in order one way round, and both sides say the same of them
  wlog hlt : a.1 < b.1 generalizing a b with hother
  · have hle : b.1 ≤ a.1 := String.not_lt.mp hlt
    have hlt' : b.1 < a.1 := by
      by_contra hnot
      exact hne (String.le_antisymm (String.not_lt.mp hnot) hle)
    exact (hother hne.symm hlt').symm
  have hnot : ¬ b.1 < a.1 := String.lt_asymm hlt
  induction members with
  | nil => simp only [insertSorted, hlt, hnot, if_true, if_false]
  | cons c rest ih =>
      by_cases hca : c.1 < a.1
      · have hcb : c.1 < b.1 := String.lt_trans hca hlt
        simp only [insertSorted, hca, hcb, if_true, ih]
      · by_cases hcb : c.1 < b.1
        · simp only [insertSorted, hca, hcb, hlt, if_true, if_false]
        · simp only [insertSorted, hca, hcb, hlt, hnot, if_true, if_false]

theorem sortedMembers_eq_foldr (members : List (String × Value)) :
    sortedMembers members =
      (members.map fun member => (member.1, sorted member.2)).foldr insertSorted [] := by
  induction members with
  | nil => rfl
  | cons member members ih =>
      obtain ⟨name, value⟩ := member
      rw [sortedMembers, ih, List.map_cons, List.foldr_cons]

/-- Members of different names have one sorted form. -/
theorem sortedMembers_eq_of_perm {members others : List (String × Value)}
    (hnames : (Fields.names members).Nodup) (h : members.Perm others) :
    sortedMembers members = sortedMembers others := by
  rw [sortedMembers_eq_foldr, sortedMembers_eq_foldr]
  refine (h.map _).foldr_eq' ?_ []
  intro x hx y hy placed
  obtain ⟨first, hfirst, rfl⟩ := List.mem_map.mp hx
  obtain ⟨second, hsecond, rfl⟩ := List.mem_map.mp hy
  by_cases hname : second.1 = first.1
  · rw [List.inj_on_of_nodup_map hnames hsecond hfirst hname]
  · have hne : (second.1, sorted second.2).1 ≠ (first.1, sorted first.2).1 := hname
    exact insertSorted_comm hne placed

theorem Reordered.sorted_eq {v w : Value} (h : Reordered v w) (hv : Distinct v) :
    sorted v = sorted w := by
  induction h with
  | refl v => rfl
  | symm h ih => exact (ih (h.distinct_iff.mpr hv)).symm
  | trans h _ ih ih' => exact (ih hv).trans (ih' (h.distinct_iff.mp hv))
  | item front back _ ih =>
      have hitem := ih (distinct_arr_iff.mp hv _ (by simp))
      simp only [sorted, sortedItems_eq_map, List.map_append, List.map_cons, hitem]
  | member front back name _ ih =>
      have hmember := ih ((distinct_obj_iff.mp hv).2 (name, _) (by simp))
      simp only [sorted, sortedMembers_eq_foldr, List.map_append, List.map_cons, hmember]
  | perm h =>
      have hmembers := sortedMembers_eq_of_perm (distinct_obj_iff.mp hv).1 h
      simp only [sorted, hmembers]

/-- **Where no name occurs twice, two values have one sorted form exactly if they differ at most
in the order of members.** -/
theorem sorted_eq_iff {v w : Value} (hv : Distinct v) : sorted v = sorted w ↔ Reordered v w :=
  ⟨.of_sorted_eq, fun h => h.sorted_eq hv⟩

/-- Sorting keeps a value writable. -/
theorem Writable.sorted {v : Value} (h : Writable v) : Writable (sorted v) := by
  induction h with
  | null => exact .null
  | bool b => exact .bool b
  | int short => exact .int short
  | float x => exact .float x
  | str s => exact .str s
  | arr _ ih =>
      rw [Json.sorted, sortedItems_eq_map]
      exact .arr (List.forall_mem_map.mpr ih)
  | @obj members distinct _ ih =>
      have hperm := sortedMembers_perm members
      rw [Json.sorted]
      refine .obj ?_ ?_
      · have hnames := hperm.map Prod.fst
        rw [List.map_map] at hnames
        exact hnames.nodup_iff.mpr distinct
      · intro member hmember
        obtain ⟨original, horiginal, rfl⟩ := List.mem_map.mp (hperm.mem_iff.mp hmember)
        exact ih original horiginal

end Json

end CommandBar
