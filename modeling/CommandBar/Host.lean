/-
The host of a dashboard.

Commands reach a dashboard through four hooks of its host.  A host notes every
call of a hook, also of one that fails: a failing hook changes nothing and passes
on its fault.
-/
import CommandBar.Dashboard

namespace CommandBar

/-- A way to change a dashboard. -/
inductive Hook
  | add
  | focus
  | update
  | remove
deriving Repr, DecidableEq

/-- The name of the hook. -/
def Hook.name : Hook → String
  | .add => "add_widget"
  | .focus => "focus_widget"
  | .update => "update_settings"
  | .remove => "remove_widget"

/-- The hook that makes a change. -/
def Change.hook : Change → Hook
  | .add _ _ _ => .add
  | .focus _ _ => .focus
  | .update _ _ => .update
  | .remove _ => .remove

/-- A dashboard behind its hooks. -/
structure Host where
  dashboard : Dashboard
  /-- The fault of each hook that fails. -/
  failing : Hook → Option Fault := fun _ => none
  /-- The changes that were asked for, in order. -/
  calls : List Change := []

namespace Host

/-- The widgets on the dashboard. -/
def widgets (host : Host) : List Widget :=
  host.dashboard.widgets

/-- Asks for a change. -/
def perform (host : Host) (change : Change) : Except Fault (Option String) × Host :=
  let noted := { host with calls := host.calls ++ [change] }
  match host.failing change.hook with
  | some fault => (.error fault, noted)
  | none =>
    match host.dashboard.apply change with
    | .error fault => (.error fault, noted)
    | .ok (dashboard, id) => (.ok id, { noted with dashboard })

/-! ### What asking for a change does -/

@[simp] theorem perform_calls (host : Host) (change : Change) :
    (host.perform change).2.calls = host.calls ++ [change] := by
  unfold perform
  split
  · rfl
  · split <;> rfl

theorem perform_dashboard_of_error {host : Host} {change : Change} {fault : Fault}
    (h : (host.perform change).1 = .error fault) :
    (host.perform change).2.dashboard = host.dashboard := by
  unfold perform at h ⊢
  split
  · rfl
  · split
    · rfl
    · next hnone _ _ _ hok => rw [hnone, hok] at h; simp at h

end Host

end CommandBar
