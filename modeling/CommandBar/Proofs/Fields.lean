/-
What overriding keeps of a record.

`override` sets the names of a patch one after another, so each fact about it is
the fact about `set` carried along the patch.  Two are needed: a patch that only
uses names the record has leaves the row of names as it is, and no entry of the
result is new but those of the patch.  Together they let a property of all entries
of a record survive any patch whose entries have it.

The members of an object are such a record in which a missing name reads as null.
-/
import CommandBar.Json.Value

namespace CommandBar

namespace Fields

variable {α : Type}

/-! ### Looking up -/

theorem mem_names_of_mem {name : String} {value : α} {fields : Fields α}
    (h : (name, value) ∈ fields) : name ∈ names fields :=
  List.mem_map_of_mem h

theorem mem_of_get?_eq_some {name : String} {value : α} {fields : Fields α}
    (h : get? name fields = some value) : (name, value) ∈ fields := by
  induction fields with
  | nil => simp [get?] at h
  | cons entry rest ih =>
      obtain ⟨k, v⟩ := entry
      by_cases hk : k = name
      · simp only [get?, if_pos hk, Option.some.injEq] at h
        simp [hk, h]
      · simp only [get?, if_neg hk] at h
        exact List.mem_cons_of_mem _ (ih h)

/-- Where no name occurs twice, every entry is what its name looks up. -/
theorem get?_eq_some_of_mem {name : String} {value : α} {fields : Fields α}
    (hnodup : (names fields).Nodup) (h : (name, value) ∈ fields) :
    get? name fields = some value := by
  induction fields with
  | nil => simp at h
  | cons entry rest ih =>
      obtain ⟨k, v⟩ := entry
      simp only [names, List.map_cons, List.nodup_cons] at hnodup
      rcases List.mem_cons.mp h with heq | hrest
      · simp only [Prod.mk.injEq] at heq
        simp [get?, heq]
      · have hk : k ≠ name := by
          rintro rfl
          exact hnodup.1 (mem_names_of_mem hrest)
        rw [get?, if_neg hk]
        exact ih hnodup.2 hrest

/-- Where no name occurs twice, the order of the entries does not show when they are looked up. -/
theorem get?_eq_of_perm {fields others : Fields α} (hnodup : (names fields).Nodup)
    (h : fields.Perm others) (name : String) : get? name fields = get? name others := by
  have hnodup' : (names others).Nodup := (h.map Prod.fst).nodup_iff.mp hnodup
  ext value
  constructor
  · intro hfound
    exact get?_eq_some_of_mem hnodup' (h.mem_iff.mp (mem_of_get?_eq_some hfound))
  · intro hfound
    exact get?_eq_some_of_mem hnodup (h.mem_iff.mpr (mem_of_get?_eq_some hfound))

/-- An entry of another name does not matter. -/
theorem get?_append_cons_ne {name other : String} (hne : other ≠ name) (front back : Fields α)
    (value : α) : get? name (front ++ (other, value) :: back) = get? name (front ++ back) := by
  induction front with
  | nil => rw [List.nil_append, get?, if_neg hne, List.nil_append]
  | cons entry front ih =>
      obtain ⟨k, v⟩ := entry
      simp only [List.cons_append, get?, ih]

/-- In a record from which names are struck out, these are not found and the others as before. -/
theorem get?_filter (p : String → Bool) (name : String) (fields : Fields α) :
    get? name (fields.filter fun entry => p entry.1) =
      if p name = true then get? name fields else none := by
  induction fields with
  | nil => simp [get?]
  | cons entry rest ih =>
      obtain ⟨k, v⟩ := entry
      by_cases hk : k = name
      · subst hk
        by_cases hp : p k = true
        · simp [hp, get?]
        · simpa [List.filter_cons, hp] using ih
      · by_cases hp : p k = true
        · simpa [List.filter_cons, hp, get?, hk] using ih
        · simpa [List.filter_cons, hp, get?, hk] using ih

/-! ### Setting -/

/-- Setting brings in no entry but its own. -/
theorem mem_set {name : String} {value : α} {fields : Fields α} {entry : String × α}
    (h : entry ∈ set name value fields) : entry = (name, value) ∨ entry ∈ fields := by
  induction fields with
  | nil => simpa [set] using h
  | cons first rest ih =>
      obtain ⟨k, v⟩ := first
      by_cases hk : k = name
      · simp only [set, if_pos hk, List.mem_cons] at h
        rcases h with h | h
        · exact Or.inl (by rw [h, hk])
        · exact Or.inr (List.mem_cons_of_mem _ h)
      · simp only [set, if_neg hk, List.mem_cons] at h
        rcases h with h | h
        · exact Or.inr (by simp [h])
        · rcases ih h with he | hm
          · exact Or.inl he
          · exact Or.inr (List.mem_cons_of_mem _ hm)

/-! ### Overriding -/

theorem override_cons (fields : Fields α) (entry : String × α) (rest : Fields α) :
    override fields (entry :: rest) = override (set entry.1 entry.2 fields) rest := rfl

/-- A patch over names that are there already changes no name and no place. -/
theorem names_override_of_subset {patch : Fields α} :
    ∀ {fields : Fields α}, (∀ name ∈ names patch, name ∈ names fields) →
      names (override fields patch) = names fields := by
  induction patch with
  | nil => intro fields _; rfl
  | cons entry rest ih =>
      intro fields h
      have hentry : entry.1 ∈ names fields := h _ (by simp [names])
      have hset : names (set entry.1 entry.2 fields) = names fields :=
        names_set_of_mem entry.2 hentry
      rw [override_cons, ih, hset]
      intro name hname
      rw [hset]
      refine h name ?_
      simp only [names, List.map_cons, List.mem_cons] at hname ⊢
      exact Or.inr hname

/-- Every entry of the result comes from the record or from the patch. -/
theorem mem_override {patch : Fields α} {entry : String × α} :
    ∀ {fields : Fields α}, entry ∈ override fields patch → entry ∈ fields ∨ entry ∈ patch := by
  induction patch with
  | nil => intro fields h; exact Or.inl h
  | cons first rest ih =>
      intro fields h
      rw [override_cons] at h
      rcases ih h with hset | hrest
      · rcases mem_set hset with he | hm
        · exact Or.inr (by simp [he])
        · exact Or.inl hm
      · exact Or.inr (List.mem_cons_of_mem _ hrest)

theorem set_of_not_mem {name : String} (value : α) {fields : Fields α}
    (h : name ∉ names fields) : set name value fields = fields ++ [(name, value)] := by
  induction fields with
  | nil => rfl
  | cons entry rest ih =>
      obtain ⟨k, v⟩ := entry
      simp only [names, List.map_cons, List.mem_cons, not_or] at h
      rw [set, if_neg (Ne.symm h.1), ih h.2]
      rfl

/-- Pairs with names of their own are put behind what is there. -/
theorem override_of_nodup {patch : Fields α} :
    ∀ {fields : Fields α}, (names (fields ++ patch)).Nodup →
      override fields patch = fields ++ patch := by
  induction patch with
  | nil =>
      intro fields _
      exact (List.append_nil fields).symm
  | cons entry rest ih =>
      intro fields h
      obtain ⟨k, v⟩ := entry
      have hsplit : fields ++ (k, v) :: rest = fields ++ [(k, v)] ++ rest := by simp
      have hnew : k ∉ names fields := by
        intro hk
        simp only [names, List.map_append, List.map_cons] at h hk
        exact (List.nodup_append.mp h).2.2 k hk k (by simp) rfl
      rw [override_cons, set_of_not_mem v hnew, ih (hsplit ▸ h), hsplit]

/-- A name that the patch does not set keeps its value. -/
theorem get?_override_of_not_mem {name : String} {patch : Fields α} :
    ∀ {fields : Fields α}, name ∉ names patch → get? name (override fields patch) =
      get? name fields := by
  induction patch with
  | nil => intro fields _; rfl
  | cons entry rest ih =>
      intro fields h
      obtain ⟨hentry, hrest⟩ := not_or.mp (mt List.mem_cons.mpr h)
      rw [override_cons, ih hrest, get?_set_ne _ _ (Ne.symm hentry)]

/-- The last pair of a name gives it its value. -/
theorem get?_ofPairs_append_cons {name : String} (front : Fields α) (value : α) {back : Fields α}
    (h : name ∉ names back) :
    get? name (ofPairs (front ++ (name, value) :: back)) = some value := by
  rw [ofPairs, override, List.foldl_append]
  exact (get?_override_of_not_mem h).trans (get?_set_self name value _)

/-- Pairs with distinct names are a record as they are. -/
theorem ofPairs_of_nodup {pairs : Fields α} (h : (names pairs).Nodup) : ofPairs pairs = pairs :=
  override_of_nodup h

end Fields

/-! ### Members of an object -/

namespace Json.Value

theorem member_set (name other : String) (value : Value) (members : Fields Value) :
    member (Fields.set name value members) other =
      if name = other then value else member members other := by
  by_cases h : name = other
  · subst h
    simp [member]
  · rw [member, Fields.get?_set_ne value members h, if_neg h, member]

theorem member_filter (p : String → Bool) (name : String) (members : Fields Value) :
    member (members.filter fun entry => p entry.1) name =
      if p name = true then member members name else .null := by
  rw [member, Fields.get?_filter]
  by_cases hp : p name = true
  · rw [if_pos hp, if_pos hp, member]
  · rw [if_neg hp, if_neg hp, Option.getD_none]

end Json.Value

end CommandBar
