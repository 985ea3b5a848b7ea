/-
A dashboard that is changed directly.

Nobody validates these changes, so they may name types and widgets that there are not,
and the widgets that the dashboard starts with may have ids of the form that new ids
take.  What holds all the same rests on the number in an id.  The number of a new widget
is found by a search that starts behind the last number given out, and the number can be
read off an id whatever type stands in front of it.  So no id is given out twice, also
when its widget is long gone.

`Search` is the search without the bound that the definition runs it with.  It may take
any number of steps, and that it ends is a fact about the ids that are taken.
-/
import CommandBar.Proofs.Dispatch

namespace CommandBar

open Json

/-! ### The search for a number -/

namespace Dashboard

/-- Looking for an id that is free, from a number on, ends at a number. -/
inductive Search (type : String) (taken : List String) : Nat → Nat → Prop
  | found {n : Nat} (free : numberedId type n ∉ taken) : Search type taken n n
  | next {n m : Nat} (used : numberedId type n ∈ taken) (rest : Search type taken (n + 1) m) :
      Search type taken n m

theorem Search.le {type : String} {taken : List String} {n m : Nat}
    (h : Search type taken n m) : n ≤ m := by
  induction h with
  | found free => exact Nat.le_refl _
  | next used rest ih => omega

theorem Search.free {type : String} {taken : List String} {n m : Nat}
    (h : Search type taken n m) : numberedId type m ∉ taken := by
  induction h with
  | found free => exact free
  | next used rest ih => exact ih

/-- Fuel that is enough to end at a free id is enough for the search to end. -/
theorem search_of_free {type : String} {taken : List String} {fuel : Nat} :
    ∀ {n : Nat}, numberedId type (freshNumber type taken fuel n) ∉ taken →
      Search type taken n (freshNumber type taken fuel n) := by
  induction fuel with
  | zero => exact fun h => .found h
  | succ fuel ih =>
      intro n h
      unfold freshNumber at h ⊢
      by_cases hn : numberedId type n ∈ taken
      · rw [if_pos hn] at h ⊢
        exact .next hn (ih h)
      · rw [if_neg hn]
        exact .found hn

/-- The search ends, whichever ids are taken. -/
theorem freshNumber_search (type : String) (taken : List String) (n : Nat) :
    Search type taken n (freshNumber type taken taken.length n) :=
  search_of_free (freshNumber_fresh type taken n)

/-! ### What a change does -/

variable {d after : Dashboard} {change : Change} {given : Option String}

/-- The type or the widget that a change names is there. -/
def Knows (d : Dashboard) : Change → Prop
  | .add type _ _ => ∃ b, d.catalog.ofType? type = some b
  | .focus id _ | .update id _ | .remove id => ∃ w ∈ d.widgets, id = some w.id

/-- What a change does when it is made, and the id that it gives back. -/
inductive Makes (d : Dashboard) : Change → Dashboard → Option String → Prop
  /-- A widget is added behind the others, under the number at which the search ends. -/
  | added {type title : Option String} {settings : Option (Fields Value)} {b : Blueprint}
      {w : Widget} {n : Nat} (known : d.catalog.ofType? type = some b)
      (search : Search b.type d.ids d.nextNumber n) (id : w.id = numberedId b.type n) :
      Makes d (.add type settings title)
        { d with widgets := d.widgets ++ [w], nextNumber := n + 1, focused := some w.id }
        (some w.id)
  /-- A widget is focused, with the patch over its settings. -/
  | focused {settings : Option (Fields Value)} {front back : List Widget} {w : Widget}
      (around : d.Around front w back) :
      Makes d (.focus (some w.id) settings)
        { d with widgets := front ++ w.override (settings.getD []) :: back, focused := some w.id }
        none
  /-- The patch is put over the settings of a widget. -/
  | updated {patch : Fields Value} {front back : List Widget} {w : Widget}
      (around : d.Around front w back) :
      Makes d (.update (some w.id) (some patch))
        { d with widgets := front ++ w.override patch :: back } none
  /-- A widget is removed, and the focus with it. -/
  | removed {front back : List Widget} {w : Widget} (around : d.Around front w back) :
      Makes d (.remove (some w.id))
        { d with
          widgets := front ++ back
          focused := if d.focused = some w.id then none else d.focused } none

theorem find?_eq_some {id : Option String} {w : Widget} (h : d.find? id = some w) :
    id = some w.id ∧ w ∈ d.widgets := by
  have hid : some w.id = id := by simpa using List.find?_some h
  exact ⟨hid.symm, List.mem_of_find?_eq_some h⟩

theorem find?_eq_none {id : Option String} (h : d.find? id = none) :
    ¬ ∃ w ∈ d.widgets, id = some w.id := by
  rintro ⟨w, hw, rfl⟩
  simpa using List.find?_eq_none.mp h w hw

/-- A widget of a known type can always be added. -/
theorem apply_add {type : Option String} {b : Blueprint}
    (hknown : d.catalog.ofType? type = some b) (settings : Option (Fields Value))
    (title : Option String) :
    ∃ after n, Search b.type d.ids d.nextNumber n ∧
      d.apply (.add type settings title) = .ok (after, some (numberedId b.type n)) ∧
      d.Makes (.add type settings title) after (some (numberedId b.type n)) := by
  have hlength : d.ids.length = d.widgets.length := by simp [ids]
  have hsearch := freshNumber_search b.type d.ids d.nextNumber
  rw [hlength] at hsearch
  refine ⟨d.addWidget b (settings.getD []) title, _, hsearch, ?_, .added hknown hsearch rfl⟩
  simp only [apply, hknown]
  rfl

theorem apply_makes (hdistinct : d.ids.Nodup) (h : d.apply change = .ok (after, given)) :
    d.Makes change after given := by
  have hnamed : ∀ {id : Option String} {w : Widget}, d.find? id = some w →
      id = some w.id ∧ ∃ front back, d.Around front w back := by
    intro id w hw
    obtain ⟨hid, hmem⟩ := find?_eq_some hw
    exact ⟨hid, exists_around hdistinct hmem⟩
  cases change with
  | add type settings title =>
      cases hknown : d.catalog.ofType? type with
      | none => simp [apply, hknown] at h
      | some b =>
          obtain ⟨made, n, -, hadd, hmakes⟩ := apply_add hknown settings title
          rw [hadd] at h
          simp only [Except.ok.injEq, Prod.mk.injEq] at h
          obtain ⟨rfl, rfl⟩ := h
          exact hmakes
  | focus id settings =>
      cases hfind : d.find? id with
      | none => simp [apply, hfind] at h
      | some w =>
          obtain ⟨rfl, front, back, haround⟩ := hnamed hfind
          rw [haround.apply_focus] at h
          simp only [Except.ok.injEq, Prod.mk.injEq] at h
          obtain ⟨rfl, rfl⟩ := h
          exact .focused haround
  | update id settings =>
      cases hfind : d.find? id with
      | none => simp [apply, hfind] at h
      | some w =>
          obtain ⟨rfl, front, back, haround⟩ := hnamed hfind
          cases settings with
          | none => simp [apply, hfind] at h
          | some patch =>
              rw [haround.apply_update] at h
              simp only [Except.ok.injEq, Prod.mk.injEq] at h
              obtain ⟨rfl, rfl⟩ := h
              exact .updated haround
  | remove id =>
      cases hfind : d.find? id with
      | none => simp [apply, hfind] at h
      | some w =>
          obtain ⟨rfl, front, back, haround⟩ := hnamed hfind
          rw [haround.apply_remove] at h
          simp only [Except.ok.injEq, Prod.mk.injEq] at h
          obtain ⟨rfl, rfl⟩ := h
          exact .removed haround

/-- A change is refused exactly when it names what is not there. -/
theorem apply_rejected_iff :
    (∃ e, d.apply change = .error (.command e) ∧ e.kind = .rejected) ↔ ¬ d.Knows change := by
  have hnamed : ∀ {id : Option String} {w : Widget}, d.find? id = some w →
      ∃ w ∈ d.widgets, id = some w.id := by
    intro id w hw
    obtain ⟨hid, hmem⟩ := find?_eq_some hw
    exact ⟨w, hmem, hid⟩
  cases change with
  | add type settings title =>
      cases hknown : d.catalog.ofType? type with
      | none => simp [apply, Knows, hknown, unknownType, CommandError.ofKind]
      | some b => simp [apply, Knows, hknown]
  | focus id settings =>
      cases hfind : d.find? id with
      | none =>
          simp [apply, Knows, hfind, find?_eq_none hfind, noSuchWidget, CommandError.withFeedback]
      | some w => simp [apply, Knows, hfind, hnamed hfind]
  | update id settings =>
      cases hfind : d.find? id with
      | none =>
          simp [apply, Knows, hfind, find?_eq_none hfind, noSuchWidget, CommandError.withFeedback]
      | some w => cases settings <;> simp [apply, Knows, hfind, hnamed hfind]
  | remove id =>
      cases hfind : d.find? id with
      | none =>
          simp [apply, Knows, hfind, find?_eq_none hfind, noSuchWidget, CommandError.withFeedback]
      | some w => simp [apply, Knows, hfind, hnamed hfind]

/-! ### What every change keeps -/

/-- A dashboard and the ids that it has given out so far. -/
structure Ledger (d : Dashboard) (issued : List String) : Prop where
  consistent : d.Consistent
  /-- The numbers of the ids lie behind. -/
  numbered : ∀ id ∈ issued, ∃ type n, id = numberedId type n ∧ n < d.nextNumber

/-- An id that is given out names no widget and has not been given out before. -/
theorem Makes.fresh {issued : List String} {id : String} (h : d.Makes change after (some id))
    (hledger : d.Ledger issued) : id ∉ d.ids ∧ id ∉ issued := by
  cases h with
  | @added type title settings b w n known search hid =>
      rw [hid]
      refine ⟨search.free, ?_⟩
      intro hissued
      obtain ⟨other, m, hsame, hlt⟩ := hledger.numbered _ hissued
      have hnumber : n = m := numberedId_number hsame
      have hle : d.nextNumber ≤ n := search.le
      omega

theorem Makes.ledger {issued : List String} (h : d.Makes change after given)
    (hledger : d.Ledger issued) : after.Ledger (issued ++ given.toList) := by
  have hsame : issued ++ (none : Option String).toList = issued := List.append_nil issued
  cases h with
  | @added type title settings b w n known search hid =>
      refine ⟨hledger.consistent.added (hid ▸ search.free), ?_⟩
      have hle : d.nextNumber ≤ n := search.le
      intro id hmem
      rcases List.mem_append.mp hmem with hold | hnew
      · obtain ⟨other, m, hother, hlt⟩ := hledger.numbered id hold
        exact ⟨other, m, hother, show m < n + 1 by omega⟩
      · obtain rfl : id = w.id := by simpa using hnew
        exact ⟨b.type, n, hid, Nat.lt_succ_self n⟩
  | focused around =>
      rw [hsame]
      exact ⟨hledger.consistent.overridden around (Or.inr rfl), hledger.numbered⟩
  | updated around =>
      rw [hsame]
      exact ⟨hledger.consistent.overridden around (Or.inl rfl), hledger.numbered⟩
  | removed around =>
      rw [hsame]
      exact ⟨hledger.consistent.removed around, hledger.numbered⟩

end Dashboard

/-! ### Calls in a row -/

namespace Host

variable {host : Host} {change : Change} {earlier : List String}

/-- The id that a call gives back, none if it gives back none or fails. -/
def given : Except Fault (Option String) → Option String
  | .ok id => id
  | .error _ => none

/-- The host after a row of calls. -/
def performAll (host : Host) (changes : List Change) : Host :=
  changes.foldl (fun host change => (host.perform change).2) host

/-- The ids that a row of calls gives back, in order. -/
def issued (host : Host) : List Change → List String
  | [] => []
  | change :: rest =>
    (given (host.perform change).1).toList ++ issued (host.perform change).2 rest

/-- A call that fails leaves the dashboard as it was, any other makes its change. -/
theorem perform_cases (host : Host) (change : Change) :
    (∃ fault, (host.perform change).1 = .error fault ∧
        (host.perform change).2.dashboard = host.dashboard) ∨
      ∃ id, (host.perform change).1 = .ok id ∧
        host.dashboard.apply change = .ok ((host.perform change).2.dashboard, id) := by
  cases hdone : (host.perform change).1 with
  | error fault => exact Or.inl ⟨fault, rfl, perform_dashboard_of_error hdone⟩
  | ok id => exact Or.inr ⟨id, rfl, perform_ok hdone⟩

theorem perform_error_iff (hhook : host.failing change.hook = none) {fault : Fault} :
    (host.perform change).1 = .error fault ↔ host.dashboard.apply change = .error fault := by
  unfold perform
  rw [hhook]
  cases happly : host.dashboard.apply change with
  | error other => simp
  | ok made => simp

theorem performAll_failing (changes : List Change) :
    ∀ host : Host, (host.performAll changes).failing = host.failing := by
  induction changes with
  | nil => exact fun _ => rfl
  | cons change rest ih =>
      intro host
      exact (ih (host.perform change).2).trans (host.perform_failing change)

theorem perform_ledger (hledger : host.dashboard.Ledger earlier) (change : Change) :
    (host.perform change).2.dashboard.Ledger
      (earlier ++ (given (host.perform change).1).toList) := by
  rcases perform_cases host change with ⟨fault, hfault, hsame⟩ | ⟨id, hid, hmade⟩
  · rw [hfault, hsame]
    simpa [given] using hledger
  · rw [hid]
    exact (Dashboard.apply_makes hledger.consistent.distinct hmade).ledger hledger

theorem performAll_ledger (changes : List Change) :
    ∀ {host : Host} {earlier : List String}, host.dashboard.Ledger earlier →
      (host.performAll changes).dashboard.Ledger (earlier ++ host.issued changes) := by
  induction changes with
  | nil =>
      intro host earlier hledger
      simpa [performAll, issued] using hledger
  | cons change rest ih =>
      intro host earlier hledger
      have hrest := ih (perform_ledger hledger change)
      rwa [List.append_assoc] at hrest

/-- What holds of a call, behind others that have given back ids. -/
structure Keeps (host : Host) (earlier : List String) (change : Change) : Prop where
  /-- No two widgets share an id. -/
  distinct : (host.perform change).2.dashboard.ids.Nodup
  /-- The focus is on a widget that is there. -/
  focus : ∀ id, (host.perform change).2.dashboard.focused = some id →
    id ∈ (host.perform change).2.dashboard.ids
  /-- Adding a widget of a known type ends the search for a number and gives back its id. -/
  ends : ∀ type settings title b, change = .add type settings title →
    host.dashboard.catalog.ofType? type = some b →
      ∃ n, Dashboard.Search b.type host.dashboard.ids host.dashboard.nextNumber n ∧
        (host.perform change).1 = .ok (some (Dashboard.numberedId b.type n))
  /-- An id that is given back named no widget, and no earlier call has given it back. -/
  fresh : ∀ id, (host.perform change).1 = .ok (some id) →
    id ∉ host.dashboard.ids ∧ id ∉ earlier
  /-- A call is refused exactly when it names a type or a widget that is not there. -/
  rejected : (∃ e, (host.perform change).1 = .error (.command e) ∧ e.kind = .rejected) ↔
    ¬ host.dashboard.Knows change
  /-- A call that is refused, or fails in another way, leaves the dashboard as it was. -/
  unchanged : ∀ fault, (host.perform change).1 = .error fault →
    (host.perform change).2.dashboard = host.dashboard

theorem Keeps.of_ledger (hhooks : ∀ hook, host.failing hook = none)
    (hledger : host.dashboard.Ledger earlier) (change : Change) : Keeps host earlier change where
  distinct := (perform_ledger hledger change).consistent.distinct
  focus := (perform_ledger hledger change).consistent.focus
  ends := by
    rintro type settings title b rfl hknown
    obtain ⟨after, n, hsearch, hadd, -⟩ := Dashboard.apply_add hknown settings title
    exact ⟨n, hsearch, perform_of_apply (hhooks _) hadd⟩
  fresh := by
    intro id hid
    exact (Dashboard.apply_makes hledger.consistent.distinct (perform_ok hid)).fresh hledger
  rejected := by
    rw [← Dashboard.apply_rejected_iff]
    simp only [perform_error_iff (hhooks _)]
  unchanged := fun fault hfault => perform_dashboard_of_error hfault

/-- **A dashboard that is changed directly** stays consistent, whatever it starts with and
whatever it is asked for, and gives out no id twice. -/
theorem performAll_keeps (catalog : Catalog) (widgets : List Widget)
    (hdistinct : (widgets.map (·.id)).Nodup) (changes : List Change) (change : Change) :
    Keeps (performAll { dashboard := { catalog, widgets } } changes)
      (issued { dashboard := { catalog, widgets } } changes) change := by
  let host : Host := { dashboard := { catalog, widgets } }
  have hempty : host.dashboard.Ledger [] := ⟨⟨hdistinct, by simp [host]⟩, by simp⟩
  have hhooks : ∀ hook, (host.performAll changes).failing hook = none := by
    rw [performAll_failing]
    exact fun _ => rfl
  exact .of_ledger hhooks (performAll_ledger changes hempty) change

/-- Two clocks, one under an id that a new clock could get. -/
def clocks : List Widget := [
  { id := "clock", type := "clock", title := "Clock" },
  { id := "clock-3", type := "clock", title := "Clock" }]

/-- A third clock comes and goes, and a fourth one is not wanted. -/
def comings : List Change :=
  [.add (some "clock") none none, .add (some "clock") none none, .remove (some "clock-2"),
    .remove (some "clock-9")]

theorem performAll_keeps_clocks :
    (clocks.map (·.id)).Nodup ∧
      issued { dashboard := { widgets := clocks } } comings = ["clock-1", "clock-2"] ∧
      (perform (performAll { dashboard := { widgets := clocks } } comings)
        (.add (some "clock") none none)).1 = .ok (some "clock-4") ∧
      "clock-4" ∉ issued { dashboard := { widgets := clocks } } comings := by
  have hdistinct : (clocks.map (·.id)).Nodup := by decide
  have hgiven : (perform (performAll { dashboard := { widgets := clocks } } comings)
      (.add (some "clock") none none)).1 = .ok (some "clock-4") := by
    decide +kernel
  have hkeeps := performAll_keeps .standard clocks hdistinct comings (.add (some "clock") none none)
  exact ⟨hdistinct, by decide +kernel, hgiven, (hkeeps.fresh _ hgiven).2⟩

end Host

end CommandBar
