/-
What the steps of a channel do to its state.

Every step that tells the user something does so last, and telling changes nothing
but what was told: that is `Told`, and with it each step is described by the
channel that it tells from.

A step that is no commit leaves the channel as busy as it was, and takes it
neither into a commit nor out of one (`Undisturbed`).  Only opening and closing the
interface touch its generation, and each begins a new one (`interface`).
-/
import CommandBar.Channel.Basic

namespace CommandBar

/-- Nobody who hears what the user is told ever fails. -/
def Listener.Calm (l : Listener) : Prop :=
  ∀ fault? ∈ l.faults, fault? = none

namespace Channel

variable {c c' : Channel}

/-- Whether the interface is open, and its generation. -/
def interface (c : Channel) : Bool × Nat :=
  (c.isOpen, c.generation)

/-- Nothing of the channel is changed but what the user was told. -/
structure Told (c c' : Channel) : Prop where
  phase_eq : c'.phase = c.phase
  busy_eq : c'.busy = c.busy
  draft_eq : c'.draft = c.draft
  interface_eq : c'.interface = c.interface
  calm : c.listener.Calm → c'.listener.Calm

/-- In a channel that is steady, the phase is that of a commit just when one is under way. -/
structure Steady (c : Channel) : Prop where
  busy_iff : c.busy = true ↔ c.phase = .committed
  calm : c.listener.Calm

/-- No commit begins or ends. -/
structure Undisturbed (c c' : Channel) : Prop where
  busy_eq : c'.busy = c.busy
  steady : c.Steady → c'.Steady

/-! ### Telling -/

theorem Told.refl (c : Channel) : Told c c :=
  ⟨rfl, rfl, rfl, rfl, id⟩

theorem Told.steady (h : Told c c') (hsteady : c.Steady) : c'.Steady where
  busy_iff := by rw [h.busy_eq, h.phase_eq, hsteady.busy_iff]
  calm := h.calm hsteady.calm

theorem Told.undisturbed (h : Told c c') : Undisturbed c c' :=
  ⟨h.busy_eq, h.steady⟩

/-- Telling changes nothing else, and succeeds unless the listener fails. -/
theorem tell_cases {α : Type} (c : Channel) (text : String) (value : α) :
    ∃ c', Told c c' ∧ (c.tell text value = (.ok value, c') ∨
      ¬ c.listener.Calm ∧ ∃ fault, c.tell text value = (.error fault, c')) := by
  unfold tell
  by_cases habsent : c.listener.absent = true
  · rw [if_pos habsent]
    exact ⟨{ c with lastFeedback := some text }, ⟨rfl, rfl, rfl, rfl, id⟩, Or.inl rfl⟩
  · rw [if_neg habsent]
    cases hfaults : c.listener.faults with
    | nil =>
        exact ⟨{ c with lastFeedback := some text, told := c.told ++ [text] },
          ⟨rfl, rfl, rfl, rfl, id⟩, Or.inl rfl⟩
    | cons fault? rest =>
        have hrest : c.listener.Calm → Listener.Calm { c.listener with faults := rest } := by
          intro h fault hfault
          exact h fault (by rw [hfaults]; exact List.mem_cons_of_mem _ hfault)
        refine ⟨{ c with
          lastFeedback := some text, told := c.told ++ [text]
          listener := { c.listener with faults := rest } }, ⟨rfl, rfl, rfl, rfl, hrest⟩, ?_⟩
        cases fault? with
        | none => exact Or.inl rfl
        | some fault =>
            refine Or.inr ⟨fun h => ?_, fault, rfl⟩
            have hnone := h (some fault) (by rw [hfaults]; exact List.mem_cons_self)
            simp at hnone

theorem tell_told {α : Type} (c : Channel) (text : String) (value : α) :
    Told c (c.tell text value).2 := by
  obtain ⟨c', htold, h | ⟨-, fault, h⟩⟩ := tell_cases c text value
  · rw [h]
    exact htold
  · rw [h]
    exact htold

/-! ### Between commits -/

theorem Undisturbed.refl (c : Channel) : Undisturbed c c :=
  ⟨rfl, id⟩

theorem Undisturbed.trans {c'' : Channel} (h : Undisturbed c c') (h' : Undisturbed c' c'') :
    Undisturbed c c'' :=
  ⟨h'.busy_eq.trans h.busy_eq, fun hsteady => h'.steady (h.steady hsteady)⟩

theorem Undisturbed.tell {α : Type} (h : Undisturbed c c') (text : String) (value : α) :
    Undisturbed c (c'.tell text value).2 :=
  h.trans (tell_told c' text value).undisturbed

/-- A channel that is not busy can go to any phase but that of a commit. -/
theorem Undisturbed.of_free (hphase : c'.phase ≠ .committed) (hbusy : c'.busy = c.busy)
    (hfree : c.Steady → c.busy = false) (hlistener : c'.listener = c.listener) :
    Undisturbed c c' where
  busy_eq := hbusy
  steady hsteady := by
    refine ⟨?_, by rw [hlistener]; exact hsteady.calm⟩
    rw [hbusy, hfree hsteady]
    simp [hphase]

/-- The microphone is never in use during a commit. -/
theorem Steady.free (h : c.Steady) (hcapturing : c.phase.isCapturing = true) : c.busy = false := by
  rw [Bool.eq_false_iff]
  intro hbusy
  rw [h.busy_iff.mp hbusy] at hcapturing
  cases hcapturing

theorem stopListening_undisturbed (c : Channel) : Undisturbed c c.stopListening := by
  unfold stopListening
  by_cases hcapturing : c.phase.isCapturing = true
  · rw [if_pos hcapturing]
    exact .of_free (by simp) rfl (·.free hcapturing) rfl
  · rw [if_neg hcapturing]
    exact .refl c

theorem reopen_undisturbed (c : Channel) : Undisturbed c c.reopen := by
  unfold reopen
  split
  · exact .refl c
  · exact ⟨rfl, fun h => ⟨h.busy_iff, h.calm⟩⟩

theorem close_undisturbed (c : Channel) : Undisturbed c c.close := by
  have hshut : Undisturbed c { c with isOpen := false, generation := c.generation + 1 } :=
    ⟨rfl, fun h => ⟨h.busy_iff, h.calm⟩⟩
  refine (hshut.trans (stopListening_undisturbed _)).trans ?_
  exact ⟨rfl, fun h => ⟨h.busy_iff, h.calm⟩⟩

theorem startListening_undisturbed (c : Channel) : Undisturbed c c.startListening.2 := by
  unfold startListening
  split
  · exact .tell (.refl c) _ _
  · by_cases hbusy : c.busy = true
    · rw [if_pos hbusy]
      exact .tell (.refl c) _ _
    · have hfree : c.busy = false := by simpa using hbusy
      rw [if_neg hbusy]
      split
      · exact stopListening_undisturbed c
      · split
        · refine .tell ?_ _ _
          exact .of_free (by simp) rfl (fun _ => hfree) rfl
        · refine .tell ?_ _ _
          exact .of_free (by simp) rfl (fun _ => hfree) rfl

theorem hear_undisturbed (c : Channel) (event : VoiceEvent) :
    Undisturbed c (c.hear event).2 := by
  unfold hear
  by_cases hcapturing : c.phase.isCapturing = true
  · rw [if_pos hcapturing]
    cases event with
    | interim transcript => exact .of_free (by simp) rfl (·.free hcapturing) rfl
    | final transcript => exact ⟨rfl, fun h => ⟨h.busy_iff, h.calm⟩⟩
    | error code message =>
        refine .tell ?_ _ _
        exact .of_free (by simp) rfl (·.free hcapturing) rfl
    | ended => exact .of_free (by simp) rfl (·.free hcapturing) rfl
    | unknown => exact .refl c
  · rw [if_neg hcapturing]
    exact .refl c

/-- What is given back to be committed is a final transcript. -/
theorem hear_final {event : VoiceEvent} {transcript : String}
    (h : c.hear event = (.ok (some transcript), c')) : event = .final transcript := by
  unfold hear at h
  split at h
  · cases event with
    | final heard =>
        obtain rfl : heard = transcript := by simpa using congrArg Prod.fst h
        rfl
    | error code message =>
        obtain ⟨c'', -, htell | ⟨-, fault, htell⟩⟩ := tell_cases { c with phase := .idle }
          (VoiceEvent.errorText code message) (none : Option String)
        · simp [htell] at h
        · simp [htell] at h
    | interim | ended | unknown => simp at h
  · simp at h

/-- A commit does not let go of the microphone: it is not in use. -/
theorem Steady.stopListening_eq (h : c.Steady) (hbusy : c.busy = true) : c.stopListening = c := by
  have hphase := h.busy_iff.mp hbusy
  simp [stopListening, hphase, Phase.isCapturing]

/-! ### Commits -/

/-- The ways in which a commit begins. -/
inductive Begins (c : Channel) : Except Fault Start × Channel → Prop
  /-- Another one is under way. -/
  | refused {result : Except Fault Outcome} {c' : Channel} (busy : c.busy = true)
      (told : Told c c')
      (calm : c.listener.Calm → result = .ok (.failed .input busyFeedback)) :
      Begins c (result.map .refused, c')
  /-- There is nothing to commit. -/
  | blank {result : Except Fault Outcome} {c' : Channel} (free : c.busy = false)
      (told : Told { c with phase := .idle } c') :
      Begins c (result.map .refused, c')
  /-- The listener fails, and the commit goes no further. -/
  | raised {fault : Fault} {c' : Channel} (free : c.busy = false)
      (told : Told { c with busy := true, phase := .committed } c')
      (rough : ¬ c.listener.Calm) :
      Begins c (.error fault, c')
  /-- It goes to the interpreter. -/
  | running {utterance : Utterance} {c' : Channel} (free : c.busy = false)
      (told : Told { c with busy := true, phase := .committed } c') :
      Begins c (.ok (.running utterance c.generation), c')

theorem begin_begins (c : Channel) (text : Option String) (origin : String) :
    Begins c (c.begin text origin) := by
  unfold begin
  by_cases hbusy : c.busy = true
  · rw [if_pos hbusy]
    obtain ⟨c', htold, h | ⟨hrough, fault, h⟩⟩ :=
      tell_cases c busyFeedback (Start.refused (.failed .input busyFeedback))
    · rw [h]
      exact @Begins.refused c (.ok _) c' hbusy htold fun _ => rfl
    · rw [h]
      exact @Begins.refused c (.error fault) c' hbusy htold fun hcalm => absurd hcalm hrough
  · have hfree : c.busy = false := by simpa using hbusy
    rw [if_neg hbusy]
    dsimp only
    split
    · obtain ⟨c', htold, h | ⟨-, fault, h⟩⟩ :=
        tell_cases { c with phase := .idle } ErrorKind.input.defaultFeedback
          (Start.refused (.failed .input ErrorKind.input.defaultFeedback))
      · rw [h]
        exact @Begins.blank c (.ok _) c' hfree htold
      · rw [h]
        exact @Begins.blank c (.error fault) c' hfree htold
    · obtain ⟨c', htold, h | ⟨hrough, fault, h⟩⟩ :=
        tell_cases { c with busy := true, phase := .committed }
          ("Processing: \"" ++ Text.trim (text.getD "") ++ "\"")
          (Start.running ⟨Text.trim (text.getD ""), origin⟩ c.generation)
      · rw [h]
        exact .running hfree htold
      · rw [h]
        exact .raised hfree htold hrough

/-- The end of a commit frees the channel, and the user is told about it or not. -/
theorem finish_told (c : Channel) (generation : Nat) (result : Except Fault (Option Outcome)) :
    Told { c with busy := false, phase := .idle, draft := "" } (c.finish generation result).2 := by
  unfold finish
  split
  · exact Told.refl _
  · exact Told.refl _
  · split
    · exact tell_told _ _ _
    · exact Told.refl _

/-! ### The interface -/

theorem isLive_iff (c : Channel) (generation : Nat) :
    c.isLive generation = true ↔ c.interface = (true, generation) := by
  simp [isLive, interface]

theorem finish_interface (c : Channel) (generation : Nat)
    (result : Except Fault (Option Outcome)) :
    (c.finish generation result).2.interface = c.interface :=
  (finish_told c generation result).interface_eq

theorem stopListening_interface (c : Channel) : c.stopListening.interface = c.interface := by
  unfold stopListening
  split <;> rfl

theorem startListening_interface (c : Channel) :
    c.startListening.2.interface = c.interface := by
  unfold startListening
  split
  · exact (tell_told ..).interface_eq
  · split
    · exact (tell_told ..).interface_eq
    · split
      · exact stopListening_interface c
      · split
        · exact (tell_told ..).interface_eq
        · exact (tell_told ..).interface_eq

theorem hear_interface (c : Channel) (event : VoiceEvent) :
    (c.hear event).2.interface = c.interface := by
  unfold hear
  split
  · cases event with
    | error code message => exact (tell_told ..).interface_eq
    | interim | final | ended | unknown => rfl
  · rfl

theorem reopen_interface (c : Channel) :
    c.reopen.interface = if c.isOpen then c.interface else (true, c.generation + 1) := by
  unfold reopen
  split <;> rfl

theorem close_interface (c : Channel) : c.close.interface = (false, c.generation + 1) :=
  stopListening_interface _

end Channel

end CommandBar
