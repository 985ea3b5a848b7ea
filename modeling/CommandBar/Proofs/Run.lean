/-
What holds of a dashboard however many utterances have changed it.

An utterance either leaves the dashboard alone or has the effect of a command that
is valid for it, so one step keeps a dashboard well formed.  The catalog of the
dashboard never changes, which the induction along a run carries with it: a patch
that was checked against the catalog of the interpreter fits that of the dashboard
because the two are the same.
-/
import CommandBar.Proofs.Interpretation

namespace CommandBar

open Validation

/-- One utterance with everything that decides what comes of it. -/
structure Exchange where
  utterance : Utterance
  live : Liveness
  oracle : Query → Reply

namespace Interpreter

/-- The host after an utterance. -/
def step (i : Interpreter) (host : Host) (x : Exchange) : Host :=
  (i.interpret x.utterance x.live x.oracle host).2.host

/-- The host after a row of utterances. -/
def run (i : Interpreter) (host : Host) (exchanges : List Exchange) : Host :=
  exchanges.foldl i.step host

variable {catalog : Catalog}

/-- An utterance leaves the host alone, or dispatches a command that is valid for it. -/
theorem step_cases (catalog : Catalog) (host : Host) (x : Exchange) :
    (ofCatalog catalog).step host x = host ∨
      ∃ answer c, validate answer x.utterance.text host.widgets .standard catalog = .ok c ∧
        (ofCatalog catalog).step host x = (Dispatcher.standard.dispatch c host).2 := by
  unfold step
  rcases interpret_dispatches (ofCatalog catalog) x.utterance x.live x.oracle host with
    ⟨-, hsame⟩ | ⟨answer, c, hvalid, hdone⟩
  · exact Or.inl hsame
  · rw [hdone, ofCatalog_apply_host]
    exact Or.inr ⟨answer, c, hvalid, rfl⟩

/-- It leaves the dashboard alone, or has the effect of such a command. -/
theorem step_effect {host : Host} (hdistinct : host.dashboard.ids.Nodup) (x : Exchange) :
    ((ofCatalog catalog).step host x).dashboard = host.dashboard ∨
      ∃ answer c, validate answer x.utterance.text host.widgets .standard catalog = .ok c ∧
        c.Effect host.dashboard ((ofCatalog catalog).step host x).dashboard := by
  rcases step_cases catalog host x with hsame | ⟨answer, c, hvalid, hstep⟩
  · rw [hsame]
    exact Or.inl rfl
  · rw [hstep]
    by_cases happlied : ∃ c', (Dispatcher.standard.dispatch c host).1 = .applied c'
    · obtain ⟨c', hc'⟩ := happlied
      have haim := (validate_ok Vocabulary.standard_regular hvalid).aim
      obtain ⟨rfl, heffect⟩ := Dispatcher.standard_applied haim hdistinct hc'
      exact Or.inr ⟨answer, c', hvalid, heffect⟩
    · rw [Dispatcher.standard_dispatch] at happlied ⊢
      exact Or.inl (Dispatcher.run_failed (not_exists.mp happlied))

/-- An utterance keeps the dashboard well formed. -/
theorem step_wellFormed (hsound : ∀ b ∈ catalog, b.Sound) {host : Host}
    (hcatalog : host.dashboard.catalog = catalog) (hwf : host.dashboard.WellFormed)
    (x : Exchange) :
    ((ofCatalog catalog).step host x).dashboard.catalog = catalog ∧
      ((ofCatalog catalog).step host x).dashboard.WellFormed := by
  rcases step_effect hwf.distinct x with hsame | ⟨answer, c, hvalid, heffect⟩
  · rw [hsame]
    exact ⟨hcatalog, hwf⟩
  · refine ⟨by rw [heffect.catalog_eq, hcatalog], ?_⟩
    have hchecked := (validate_ok Vocabulary.standard_regular hvalid).checked
    subst hcatalog
    exact heffect.wellFormed hwf hsound hchecked

/-- So does a row of them. -/
theorem run_wellFormed (hsound : ∀ b ∈ catalog, b.Sound) {exchanges : List Exchange} :
    ∀ {host : Host}, host.dashboard.catalog = catalog → host.dashboard.WellFormed →
      ((ofCatalog catalog).run host exchanges).dashboard.catalog = catalog ∧
        ((ofCatalog catalog).run host exchanges).dashboard.WellFormed := by
  induction exchanges with
  | nil => exact fun hcatalog hwf => ⟨hcatalog, hwf⟩
  | cons x rest ih =>
      intro host hcatalog hwf
      obtain ⟨hcatalog', hwf'⟩ := step_wellFormed hsound hcatalog hwf x
      exact ih hcatalog' hwf'

/-- Which hooks fail does not change. -/
theorem step_failing (host : Host) (x : Exchange) :
    ((ofCatalog catalog).step host x).failing = host.failing := by
  rcases step_cases catalog host x with hsame | ⟨answer, c, -, hstep⟩
  · rw [hsame]
  · rw [hstep, Dispatcher.standard_dispatch]
    exact Dispatcher.run_failing _ c host

theorem run_failing (catalog : Catalog) (exchanges : List Exchange) :
    ∀ host : Host, ((ofCatalog catalog).run host exchanges).failing = host.failing := by
  induction exchanges with
  | nil => exact fun _ => rfl
  | cons x rest ih =>
      intro host
      exact (ih ((ofCatalog catalog).step host x)).trans (step_failing host x)

/-- **Whatever is said and replied, a dashboard over the standard catalog that starts empty
stays well formed**, also where hooks fail. -/
theorem standard_run_wellFormed (failing : Hook → Option Fault) (exchanges : List Exchange) :
    (standard.run { dashboard := {}, failing } exchanges).dashboard.catalog = .standard ∧
      (standard.run { dashboard := {}, failing } exchanges).dashboard.WellFormed :=
  run_wellFormed Catalog.standard_sound rfl (Dashboard.WellFormed.empty .standard)

end Interpreter

end CommandBar
