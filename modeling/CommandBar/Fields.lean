/-
Named values in order.

A record of named values is a list of pairs, looked up by name.  Names are unique
in every record these operations build: setting a name that is there already
keeps its place and changes its value, setting a new one puts it last.
Overriding a record sets the names of a second one in turn.
-/

namespace CommandBar

/-- Named values in order. -/
abbrev Fields (α : Type) := List (String × α)

namespace Fields

variable {α : Type}

/-- The names, in order. -/
def names (fields : Fields α) : List String :=
  fields.map Prod.fst

/-- The value of a name. -/
def get? (name : String) : Fields α → Option α
  | [] => none
  | (k, v) :: rest => if k = name then some v else get? name rest

/-- Sets one name, in its place if it is there and last otherwise. -/
def set (name : String) (value : α) : Fields α → Fields α
  | [] => [(name, value)]
  | (k, v) :: rest => if k = name then (k, value) :: rest else (k, v) :: set name value rest

/-- The first record with the names of the second set to its values. -/
def override (fields patch : Fields α) : Fields α :=
  patch.foldl (fun acc entry => set entry.1 entry.2 acc) fields

/-- The record that a list of pairs builds, a repeated name keeping its last value. -/
def ofPairs (pairs : List (String × α)) : Fields α :=
  override [] pairs

/-! ### What setting does to the names and the values -/

@[simp] theorem get?_set_self (name : String) (value : α) (fields : Fields α) :
    get? name (set name value fields) = some value := by
  induction fields with
  | nil => simp [set, get?]
  | cons entry rest ih =>
    obtain ⟨k, v⟩ := entry
    by_cases h : k = name <;> simp [set, get?, h, ih]

theorem get?_set_ne {name other : String} (value : α) (fields : Fields α)
    (h : name ≠ other) : get? other (set name value fields) = get? other fields := by
  induction fields with
  | nil => simp [set, get?, h]
  | cons entry rest ih =>
    obtain ⟨k, v⟩ := entry
    by_cases hk : k = name
    · subst hk; simp [set, get?, h]
    · simp [set, get?, hk, ih]

theorem names_set_of_mem {name : String} (value : α) {fields : Fields α}
    (h : name ∈ names fields) : names (set name value fields) = names fields := by
  induction fields with
  | nil => simp [names] at h
  | cons entry rest ih =>
    obtain ⟨k, v⟩ := entry
    by_cases hk : k = name
    · simp [set, hk, names]
    · have hrest : name ∈ names rest := by simpa [names, Ne.symm hk] using h
      simpa [set, hk, names] using ih hrest

theorem names_set_of_not_mem {name : String} (value : α) {fields : Fields α}
    (h : name ∉ names fields) : names (set name value fields) = names fields ++ [name] := by
  induction fields with
  | nil => rfl
  | cons entry rest ih =>
    obtain ⟨k, v⟩ := entry
    have hk : k ≠ name := fun hc => h (by simp [names, hc])
    have hrest : name ∉ names rest := fun hc => h (by simp [names] at hc ⊢; exact Or.inr hc)
    simpa [set, hk, names] using ih hrest

end Fields

end CommandBar
