/-
What a change does to a dashboard.

A change that names a widget acts on the first one with that id.  Where no two
widgets share an id it is the only one, so the dashboard comes apart into what
stands before the widget, the widget, and what stands behind it: `Around` says so,
and each change is then an equation about these three parts.  Everything that is
not the widget is in the first part or in the last, and both stay as they are.

`Consistent` is the invariant of the ids and the focus, which every change keeps.
`WellFormed` adds to it that the widgets fit the catalog, which takes changes that do.
Only two of the clauses are more than bookkeeping.  A new id is not taken, since the
search for a free number looks at one number more than there are ids; and settings
still fit after a patch that fits the blueprint of the same type.
-/
import CommandBar.Dashboard
import CommandBar.Proofs.Setting
import Mathlib.Data.List.DropRight
import Mathlib.Data.List.Nodup
import Mathlib.Data.List.Perm.Subperm

namespace CommandBar

open Json

/-- The widget with some of its settings overridden. -/
def Widget.override (w : Widget) (patch : Fields Value) : Widget :=
  { w with settings := w.settings.override patch }

@[simp] theorem Widget.override_id (w : Widget) (patch : Fields Value) :
    (w.override patch).id = w.id := rfl

@[simp] theorem Widget.override_type (w : Widget) (patch : Fields Value) :
    (w.override patch).type = w.type := rfl

namespace Dashboard

variable {d : Dashboard}

/-! ### Fresh ids -/

theorem numberedId_toList (type : String) (n : Nat) :
    (numberedId type n).toList = type.toList ++ '-' :: Nat.toDigits 10 n := by
  have hdash : "-".toList = ['-'] := rfl
  simp only [numberedId, String.toList_append, hdash, Nat.toString_eq_repr, Nat.toList_repr,
    List.append_assoc, List.cons_append, List.nil_append]

/-- The digits behind the last dash are those of the number. -/
theorem numberedId_digits (type : String) (n : Nat) :
    (numberedId type n).toList.rtakeWhile Char.isDigit = Nat.toDigits 10 n := by
  have hdigits : ∀ c ∈ (Nat.toDigits 10 n).reverse, c.isDigit = true := by
    intro c hc
    exact Nat.isDigit_of_mem_toDigits (by decide) (by decide) (List.mem_reverse.mp hc)
  have hdash : Char.isDigit '-' = false := by decide
  rw [numberedId_toList, List.rtakeWhile, List.reverse_append, List.reverse_cons,
    List.append_assoc, List.takeWhile_append_of_pos hdigits]
  simp [hdash]

/-- The number can be read off an id, also where the type has dashes and digits. -/
theorem numberedId_number {type other : String} {m n : Nat}
    (h : numberedId type m = numberedId other n) : m = n := by
  have hdigits : Nat.toDigits 10 m = Nat.toDigits 10 n := by
    rw [← numberedId_digits type, ← numberedId_digits other, h]
  have hvalue := congrArg (Nat.ofDigitChars 10 · 0) hdigits
  simpa [Nat.ofDigitChars_ten_toDigits] using hvalue

/-- A search that ends at a taken id has found all the numbers it looked at taken. -/
theorem freshNumber_taken {type : String} {taken : List String} {fuel : Nat} :
    ∀ {n : Nat}, numberedId type (freshNumber type taken fuel n) ∈ taken →
      ∀ k, k ≤ fuel → numberedId type (n + k) ∈ taken := by
  induction fuel with
  | zero =>
      intro n h k hk
      have hzero : k = 0 := by omega
      simpa [freshNumber, hzero] using h
  | succ fuel ih =>
      intro n h k hk
      unfold freshNumber at h
      by_cases hn : numberedId type n ∈ taken
      · rw [if_pos hn] at h
        cases k with
        | zero => exact hn
        | succ k =>
            have hk' : numberedId type (n + 1 + k) ∈ taken := ih h k (by omega)
            rwa [Nat.add_right_comm] at hk'
      · rw [if_neg hn] at h
        exact absurd h hn

/-- The id that is found is not taken. -/
theorem freshNumber_fresh (type : String) (taken : List String) (n : Nat) :
    numberedId type (freshNumber type taken taken.length n) ∉ taken := by
  intro h
  -- one id more than there are taken ones would be taken
  let looked : List String := (List.range (taken.length + 1)).map fun k => numberedId type (n + k)
  have hdistinct : looked.Nodup := by
    refine List.Nodup.map ?_ List.nodup_range
    intro j k hjk
    have heq : n + j = n + k := numberedId_number hjk
    omega
  have hsub : looked ⊆ taken := by
    intro id hid
    obtain ⟨k, hk, rfl⟩ := List.mem_map.mp hid
    exact freshNumber_taken h k (by simp only [List.mem_range] at hk; omega)
  have hle : looked.length ≤ taken.length := (List.subperm_of_subset hdistinct hsub).length_le
  simp only [looked, List.length_map, List.length_range] at hle
  omega

/-! ### The widget that an id names -/

/-- The dashboard holds the widget between two rows of others, none of which shares its id. -/
structure Around (d : Dashboard) (front : List Widget) (w : Widget) (back : List Widget) :
    Prop where
  widgets : d.widgets = front ++ w :: back
  alone : ∀ other ∈ front ++ back, other.id ≠ w.id

/-- Where no two widgets share an id, every widget stands so. -/
theorem exists_around (hdistinct : d.ids.Nodup) {w : Widget} (hw : w ∈ d.widgets) :
    ∃ front back, d.Around front w back := by
  obtain ⟨front, back, hsplit⟩ := List.append_of_mem hw
  refine ⟨front, back, hsplit, ?_⟩
  rw [ids, hsplit, List.map_append, List.map_cons, List.nodup_middle, List.nodup_cons,
    ← List.map_append] at hdistinct
  intro other hother heq
  exact hdistinct.1 (heq ▸ List.mem_map_of_mem hother)

section Around

variable {front back : List Widget} {w : Widget}

theorem Around.mem_iff (h : d.Around front w back) {v : Widget} :
    v ∈ d.widgets ↔ v = w ∨ v ∈ front ++ back := by
  rw [h.widgets]
  simp only [List.mem_append, List.mem_cons]
  tauto

theorem Around.mem (h : d.Around front w back) : w ∈ d.widgets :=
  h.mem_iff.mpr (Or.inl rfl)

theorem Around.mem_other (h : d.Around front w back) {v : Widget} (hv : v ∈ front ++ back) :
    v ∈ d.widgets :=
  h.mem_iff.mpr (Or.inr hv)

theorem Around.find? (h : d.Around front w back) : d.find? (some w.id) = some w := by
  have hfront : ∀ other ∈ front, other.id ≠ w.id :=
    fun other hother => h.alone other (List.mem_append_left _ hother)
  rw [Dashboard.find?, h.widgets, List.find?_append, List.find?_eq_none.mpr (by simpa using hfront)]
  simp

theorem changeFirst_append {id : String} {f : Widget → Widget} {rest : List Widget}
    (hfront : ∀ other ∈ front, other.id ≠ id) (hw : w.id = id) :
    changeFirst id f (front ++ w :: rest) = front ++ f w :: rest := by
  induction front with
  | nil => simp [changeFirst, hw]
  | cons first front ih =>
      have hfirst : first.id ≠ id := hfront first (by simp)
      have hrest := ih fun other hother => hfront other (List.mem_cons_of_mem _ hother)
      simp [changeFirst, hfirst, hrest]

/-- Configuring a widget overrides its settings and touches nothing else. -/
theorem Around.configure (h : d.Around front w back) (patch : Fields Value) :
    d.configure w.id patch = { d with widgets := front ++ w.override patch :: back } := by
  have hfront : ∀ other ∈ front, other.id ≠ w.id :=
    fun other hother => h.alone other (List.mem_append_left _ hother)
  simp only [Dashboard.configure, h.widgets, changeFirst_append hfront rfl, Widget.override]

/-- Removing a widget closes the gap, and takes the focus away only from that widget. -/
theorem Around.removeWidget (h : d.Around front w back) :
    d.removeWidget w.id =
      { d with
        widgets := front ++ back
        focused := if d.focused = some w.id then none else d.focused } := by
  have hfront : ∀ other ∈ front, ¬ decide (other.id = w.id) = true :=
    fun other hother => by simpa using h.alone other (List.mem_append_left _ hother)
  simp only [Dashboard.removeWidget, h.widgets, List.eraseP_append_right _ hfront,
    List.eraseP_cons_of_pos, decide_true]

/-! ### Changes to that widget -/

theorem Around.apply_focus (h : d.Around front w back) (settings : Option (Fields Value)) :
    d.apply (.focus (some w.id) settings) =
      .ok ({ d with
        widgets := front ++ w.override (settings.getD []) :: back
        focused := some w.id }, none) := by
  simp only [apply, h.find?, h.configure]

theorem Around.apply_update (h : d.Around front w back) (patch : Fields Value) :
    d.apply (.update (some w.id) (some patch)) =
      .ok ({ d with widgets := front ++ w.override patch :: back }, none) := by
  simp only [apply, h.find?, h.configure]

theorem Around.apply_remove (h : d.Around front w back) :
    d.apply (.remove (some w.id)) =
      .ok ({ d with
        widgets := front ++ back
        focused := if d.focused = some w.id then none else d.focused }, none) := by
  simp only [apply, h.find?, h.removeWidget]

end Around

/-! ### Consistent dashboards -/

/-- What holds of every dashboard, whatever has changed it. -/
structure Consistent (d : Dashboard) : Prop where
  /-- No two widgets share an id. -/
  distinct : d.ids.Nodup
  /-- The focus is on a widget that is there. -/
  focus : ∀ id, d.focused = some id → id ∈ d.ids

namespace Consistent

/-- A widget under a new id can be added. -/
theorem added (h : d.Consistent) {w : Widget} {n : Nat} (hfresh : w.id ∉ d.ids) :
    Consistent { d with
      widgets := d.widgets ++ [w], nextNumber := n, focused := some w.id } := by
  have hids : (d.widgets ++ [w]).map (·.id) = d.ids ++ [w.id] := by simp [ids]
  constructor
  · rw [ids, hids]
    simpa using List.Nodup.concat hfresh h.distinct
  · intro id hid
    obtain rfl : w.id = id := by simpa using hid
    rw [ids, hids]
    simp

section Around

variable {front back : List Widget} {w : Widget}

/-- The settings of a widget can be overridden, and the widget focused. -/
theorem overridden (h : d.Consistent) (haround : d.Around front w back) {patch : Fields Value}
    {focused : Option String} (hfocused : focused = d.focused ∨ focused = some w.id) :
    Consistent { d with widgets := front ++ w.override patch :: back, focused := focused } := by
  have hids : (front ++ w.override patch :: back).map (·.id) = d.ids := by
    simp [ids, haround.widgets]
  constructor
  · rw [ids, hids]
    exact h.distinct
  · intro id hid
    rw [ids, hids]
    rcases hfocused with rfl | rfl
    · exact h.focus id hid
    · obtain rfl : w.id = id := by simpa using hid
      exact List.mem_map_of_mem haround.mem

/-- A widget can be removed. -/
theorem removed (h : d.Consistent) (haround : d.Around front w back) :
    Consistent { d with
      widgets := front ++ back
      focused := if d.focused = some w.id then none else d.focused } := by
  constructor
  · have hdistinct := h.distinct
    rw [ids, haround.widgets, List.map_append, List.map_cons, List.nodup_middle,
      ← List.map_append] at hdistinct
    exact (List.nodup_cons.mp hdistinct).2
  · intro id hid
    simp only at hid
    split at hid
    · simp at hid
    · next hother =>
        -- the focused widget is another one, so it is still there
        obtain ⟨v, hv, rfl⟩ := List.mem_map.mp (h.focus id hid)
        have hne : v ≠ w := by
          rintro rfl
          exact hother hid
        exact List.mem_map_of_mem ((haround.mem_iff.mp hv).resolve_left hne)

end Around

end Consistent

/-! ### Well-formed dashboards -/

/-- What holds of every dashboard that only valid commands have changed. -/
structure WellFormed (d : Dashboard) : Prop where
  /-- No two widgets share an id. -/
  distinct : d.ids.Nodup
  /-- Every widget is of a known type, and has settings that the blueprint of the type admits. -/
  fits : ∀ w ∈ d.widgets, ∃ b, d.catalog.find? w.type = some b ∧ b.Admits w.settings
  /-- The focus is on a widget that is there. -/
  focus : ∀ id, d.focused = some id → id ∈ d.ids

namespace WellFormed

theorem empty (catalog : Catalog) : WellFormed { catalog } :=
  ⟨by simp [ids], by simp, by simp⟩

theorem consistent (h : d.WellFormed) : d.Consistent :=
  ⟨h.distinct, h.focus⟩

/-- A fitting widget under a new id can be added. -/
theorem added (h : d.WellFormed) {w : Widget} {b : Blueprint} {n : Nat} (hfresh : w.id ∉ d.ids)
    (hb : d.catalog.find? w.type = some b) (hfits : b.Admits w.settings) :
    WellFormed { d with widgets := d.widgets ++ [w], nextNumber := n, focused := some w.id } := by
  have hconsistent := h.consistent.added (n := n) hfresh
  refine ⟨hconsistent.distinct, ?_, hconsistent.focus⟩
  intro other hother
  rcases List.mem_append.mp hother with hold | hnew
  · exact h.fits other hold
  · obtain rfl : other = w := by simpa using hnew
    exact ⟨b, hb, hfits⟩

section Around

variable {front back : List Widget} {w : Widget}

/-- The settings of a widget can be overridden by a fitting patch, and the widget focused. -/
theorem overridden (h : d.WellFormed) (haround : d.Around front w back) {patch : Fields Value}
    (hpatch : ∀ b, d.catalog.find? w.type = some b → b.AdmitsPatch patch)
    {focused : Option String} (hfocused : focused = d.focused ∨ focused = some w.id) :
    WellFormed { d with widgets := front ++ w.override patch :: back, focused := focused } := by
  have hconsistent : Consistent { d with
      widgets := front ++ w.override patch :: back, focused := focused } :=
    h.consistent.overridden haround hfocused
  refine ⟨hconsistent.distinct, ?_, hconsistent.focus⟩
  intro other hother
  obtain ⟨b, hb, hfits⟩ := h.fits w haround.mem
  rcases List.mem_append.mp hother with hfront | hmiddle
  · exact h.fits other (haround.mem_other (List.mem_append_left _ hfront))
  · rcases List.mem_cons.mp hmiddle with rfl | hback
    · exact ⟨b, hb, Blueprint.admits_override hfits (hpatch b hb)⟩
    · exact h.fits other (haround.mem_other (List.mem_append_right _ hback))

/-- A widget can be removed. -/
theorem removed (h : d.WellFormed) (haround : d.Around front w back) :
    WellFormed { d with
      widgets := front ++ back
      focused := if d.focused = some w.id then none else d.focused } := by
  have hconsistent := h.consistent.removed haround
  refine ⟨hconsistent.distinct, ?_, hconsistent.focus⟩
  intro other hother
  exact h.fits other (haround.mem_other hother)

end Around

end WellFormed

end Dashboard

end CommandBar
