/-
Whether a capture that runs is heard.

A capture runs from a start of the microphone until the microphone is stopped or
reports an error, its end or a final transcript.  It is heard in the phases of
listening and transcribing.

A move that runs no job does one of four things to the microphone (`Handles`), and
each of them that leaves a capture running leaves it heard.  A job that is run takes
the channel out of those phases whatever it is.  A typed commit stops the microphone
first, and no call can end while it is in use, because a channel that hears is not
busy (`Guarded`).  That leaves the spoken commits: one that waited while the
microphone was stopped and started again makes the new capture unheard, and nothing
else does.
-/
import CommandBar.Proofs.SingleFlight

namespace CommandBar

/-- Whether the microphone has given what it was started for, or has failed. -/
def VoiceEvent.endsCapture : VoiceEvent → Bool
  | .final _ | .error _ _ | .ended => true
  | .interim _ | .unknown => false

/-- Whether a move is such a report. -/
def Move.endsCapture : Move → Bool
  | .event (.voice _ report) => report.endsCapture
  | _ => false

namespace Channel

variable {c c' : Channel}

/-- How often the microphone was started and stopped, if there is one. -/
def usage (c : Channel) : Option (Nat × Nat) :=
  c.microphone.map fun m => (m.starts, m.stops)

/-- How often the microphone was started. -/
def starts (c : Channel) : Nat :=
  c.usage.elim 0 Prod.fst

/-- How often it was stopped. -/
def stops (c : Channel) : Nat :=
  c.usage.elim 0 Prod.snd

/-! ### Steps and the microphone -/

@[simp] theorem tell_usage {α : Type} (c : Channel) (text : String) (value : α) :
    (c.tell text value).2.usage = c.usage := by
  unfold tell
  split
  · rfl
  · split
    · rfl
    · split <;> rfl

@[simp] theorem begin_usage (c : Channel) (text : Option String) (origin : String) :
    (c.begin text origin).2.usage = c.usage := by
  unfold begin
  split
  · exact tell_usage ..
  · dsimp only
    split <;> exact tell_usage ..

@[simp] theorem finish_usage (c : Channel) (generation : Nat)
    (result : Except Fault (Option Outcome)) :
    (c.finish generation result).2.usage = c.usage := by
  unfold finish
  split
  · rfl
  · rfl
  · split
    · exact tell_usage ..
    · rfl

@[simp] theorem hear_usage (c : Channel) (event : VoiceEvent) :
    (c.hear event).2.usage = c.usage := by
  unfold hear
  split
  · cases event with
    | error code message => exact tell_usage ..
    | interim | final | ended | unknown => rfl
  · rfl

theorem hear_deaf (h : c.phase.isCapturing = false) (event : VoiceEvent) :
    c.hear event = (.ok none, c) := by
  simp [hear, h]

theorem hear_capturing {event : VoiceEvent} (h : event.endsCapture = false) (c : Channel) :
    (c.hear event).2.phase.isCapturing = c.phase.isCapturing := by
  unfold hear
  split
  · next hcapturing =>
      cases event with
      | interim transcript => exact hcapturing.symm
      | unknown => rfl
      | final | error | ended => simp [VoiceEvent.endsCapture] at h
  · rfl

theorem stopListening_deaf (c : Channel) : c.stopListening.phase.isCapturing = false := by
  unfold stopListening
  split
  · rfl
  · next h => simpa using h

theorem stopListening_of_deaf (h : c.phase.isCapturing = false) : c.stopListening = c := by
  simp [stopListening, h]

theorem stopListening_usage (h : c.phase.isCapturing = true) :
    c.stopListening.usage = c.usage.map fun u => (u.1, u.2 + 1) := by
  simp [stopListening, h, usage, Function.comp_def]

/-- The ways in which a press of the button can go. -/
inductive Presses (c c' : Channel) : Prop
  /-- The microphone is left alone. -/
  | kept (capturing : c'.phase.isCapturing = c.phase.isCapturing) (usage : c'.usage = c.usage)
  | stopped (same : c' = c.stopListening)
  | started (free : c.busy = false) (capturing : c'.phase.isCapturing = true) (u : Nat × Nat)
      (before : c.usage = some u) (usage : c'.usage = some (u.1 + 1, u.2))

theorem startListening_presses (c : Channel) : Presses c c.startListening.2 := by
  unfold startListening
  split
  · exact .kept (by simp) (tell_usage ..)
  · next m hm =>
      split
      · exact .kept (by simp) (tell_usage ..)
      · next hbusy =>
          split
          · exact .stopped rfl
          · next hcapturing =>
              split
              · refine .kept ?_ (tell_usage ..)
                rw [tell_phase, Bool.eq_false_iff.mpr hcapturing]
                rfl
              · refine .started (Bool.eq_false_iff.mpr hbusy) ?_ (m.starts, m.stops) ?_ ?_
                · rw [tell_phase]
                  rfl
                · simp [usage, hm]
                · exact tell_usage ..

end Channel

namespace Session

variable {s s' : Session} {m : Move} {ticket : Ticket}

/-- Whether what the microphone reports is listened to. -/
def hears (s : Session) : Bool :=
  s.channel.phase.isCapturing

/-! ### Moves that run no job -/

/-- What a move that runs no job does to the microphone. -/
inductive Handles (s : Session) (m : Move) (s' : Session) : Prop
  /-- Nothing, and it is heard as before. -/
  | kept (hears : s'.hears = s.hears) (usage : s'.channel.usage = s.channel.usage)
  /-- It says that it has ended. -/
  | ended (ends : m.endsCapture = true) (hears : s'.hears = true → s.hears = true)
      (usage : s'.channel.usage = s.channel.usage)
  | stopped (deaf : s'.hears = false)
      (usage : s'.channel.usage = s.channel.usage.map fun u => (u.1, u.2 + 1))
  | started (asked : m = .event .startListening) (free : s.channel.busy = false)
      (hears : s'.hears = true) (u : Nat × Nat) (before : s.channel.usage = some u)
      (usage : s'.channel.usage = some (u.1 + 1, u.2))

theorem Handles.of_stopListening (hphase : s'.channel.phase = s.channel.stopListening.phase)
    (husage : s'.channel.usage = s.channel.stopListening.usage) : Handles s m s' := by
  cases hhears : s.hears with
  | false =>
      rw [Channel.stopListening_of_deaf hhears] at hphase husage
      exact .kept (by rw [hears, hphase, hears]) husage
  | true =>
      refine .stopped ?_ (husage.trans (Channel.stopListening_usage hhears))
      rw [hears, hphase]
      exact Channel.stopListening_deaf _

theorem hear_channel (s : Session) (number : Nat) (event : VoiceEvent) :
    (s.hear number event).2.channel = { (s.channel.hear event).2 with told := [] } := by
  unfold hear
  split
  · next h => rw [h]; rfl
  · next h => rw [h]; rfl
  · next h => rw [h]; rfl

theorem hear_handles (s : Session) (number : Nat) (event : VoiceEvent) :
    Handles s (.event (.voice number event)) (s.hear number event).2 := by
  have hchannel := s.hear_channel number event
  have husage : (s.hear number event).2.channel.usage = s.channel.usage := by
    rw [hchannel]
    exact Channel.hear_usage ..
  cases hends : event.endsCapture with
  | false =>
      refine .kept ?_ husage
      rw [hears, hchannel]
      exact Channel.hear_capturing hends s.channel
  | true =>
      refine .ended hends (fun hafter => ?_) husage
      by_contra hdeaf
      rw [Bool.not_eq_true] at hdeaf
      rw [hears, hchannel, Channel.hear_deaf hdeaf] at hafter
      exact Bool.false_ne_true (hdeaf.symm.trans hafter)

theorem startListening_handles (s : Session) :
    Handles s (.event .startListening) (s.move (.event .startListening)) := by
  cases Channel.startListening_presses s.channel with
  | kept capturing usage => exact .kept capturing usage
  | stopped same =>
      have hphase := congrArg Channel.phase same
      have husage := congrArg Channel.usage same
      exact .of_stopListening hphase husage
  | started free capturing u before usage => exact .started rfl free capturing u before usage

theorem close_handles (s : Session) (m : Move) : Handles s m (s.move (.event .close)) := by
  refine .of_stopListening ?_ ?_
  · simp only [move, step, withChannel, Channel.close, Channel.stopListening]
    split <;> rfl
  · simp only [move, step, withChannel, Channel.close, Channel.stopListening, Channel.usage]
    split <;> rfl

theorem reopen_handles (s : Session) (m : Move) : Handles s m (s.move (.event .reopen)) := by
  have hreopen : s.channel.reopen.phase = s.channel.phase ∧
      s.channel.reopen.usage = s.channel.usage := by
    unfold Channel.reopen
    split <;> exact ⟨rfl, rfl⟩
  exact .kept (congrArg Phase.isCapturing hreopen.1) hreopen.2

theorem move_handles (h : s.working m = none) : Handles s m (s.move m) := by
  cases m with
  | run place =>
      simp only [working] at h
      simp only [move, runAt, h]
      exact .kept rfl rfl
  | device refusal =>
      refine .kept rfl ?_
      simp [move, Channel.usage, Function.comp_def]
  | event event =>
      cases event with
      | submit | change => exact .kept rfl rfl
      | reply reply =>
          simp only [move, step, take]
          split <;> exact .kept rfl rfl
      | voice number event => exact hear_handles s number event
      | reopen => exact reopen_handles s _
      | close => exact close_handles s _
      | startListening => exact startListening_handles s
      | stopListening => exact .of_stopListening rfl rfl
      | run =>
          simp only [working] at h
          simp only [move, step, runNext_eq_runAt, runAt, h]
          exact .kept rfl rfl

/-! ### Jobs -/

theorem complete_usage (s : Session) (call : Call) (done : Interpretation) :
    (s.complete call done).channel.usage = s.channel.usage :=
  Channel.finish_usage ..

theorem ask_usage (s : Session) (call : Call) :
    (s.ask call).channel.usage = s.channel.usage := by
  unfold ask
  split
  · exact complete_usage ..
  · dsimp only
    split
    · exact complete_usage ..
    · exact complete_usage ..
    · rfl

theorem start_usage (s : Session) (ticket : Ticket) (text : Option String) (origin : String) :
    (s.start ticket text origin).channel.usage = (s.entrance ticket).usage := by
  have hbegin := Channel.begin_usage (s.entrance ticket) text origin
  unfold start
  split
  · next h => rw [h] at hbegin; exact hbegin
  · next h => rw [h] at hbegin; exact hbegin
  · next h =>
      rw [h] at hbegin
      rw [ask_usage]
      exact hbegin

theorem entrance_spoken (h : ticket.spoken = true) : s.entrance ticket = s.channel := by
  simp [entrance, h]

theorem entrance_typed (h : ticket.spoken = false) :
    s.entrance ticket = s.channel.stopListening := by
  simp [entrance, h]

/-- A job that is run leaves a channel that does not hear. -/
theorem work_deaf (hguarded : s.channel.busy = true → s.hears = false) (job : Job) :
    (s.work job).hears = false := by
  cases job with
  | resume call reply =>
      have hphase : (s.resume call reply).channel.phase = .idle := Channel.finish_phase ..
      rw [work, hears, hphase]
      rfl
  | commit ticket text origin =>
      have hstarts := start_starts s ticket text origin
      rw [work, hears]
      generalize s.start ticket text origin = s' at hstarts
      cases hstarts with
      | @refused result c busy told calm =>
          have hphase : ((s.withChannel c).finish ticket (result.map some)).channel.phase =
              (s.entrance ticket).phase := told.phase_eq
          rw [hphase]
          cases hspoken : ticket.spoken with
          | true =>
              rw [entrance_spoken hspoken]
              exact hguarded busy
          | false =>
              rw [entrance_typed hspoken]
              exact Channel.stopListening_deaf _
      | blank free told => exact congrArg Phase.isCapturing told.phase_eq
      | raised rough told => exact congrArg Phase.isCapturing told.phase_eq
      | running free told asks =>
          cases asks with
          | @ended t done channel ready waiting host =>
              exact congrArg Phase.isCapturing (Channel.finish_phase ..)
          | waits query => exact congrArg Phase.isCapturing told.phase_eq

theorem working_deaf {job : Job} (hguarded : s.channel.busy = true → s.hears = false)
    (h : s.working m = some job) : (s.move m).hears = false := by
  obtain ⟨rest, -, hmove⟩ := move_working h
  rw [hmove]
  exact work_deaf (s := { s with ready := rest }) hguarded job

theorem start_spoken_usage (h : ticket.spoken = true) (text : Option String) (origin : String) :
    (s.start ticket text origin).channel.usage = s.channel.usage := by
  rw [start_usage, entrance_spoken h]

/-- A typed commit that is run while the microphone is heard stops it. -/
theorem start_typed_usage (h : ticket.spoken = false) (hhears : s.hears = true)
    (text : Option String) (origin : String) :
    (s.start ticket text origin).channel.usage =
      s.channel.usage.map fun u => (u.1, u.2 + 1) := by
  rw [start_usage, entrance_typed h]
  exact Channel.stopListening_usage hhears

/-! ### The microphone is not heard during a commit -/

/-- What keeps the microphone and the commits apart. -/
structure Guarded (s : Session) : Prop where
  /-- Who is busy does not hear. -/
  deaf : s.channel.busy = true → s.hears = false
  /-- Who hears has a microphone. -/
  equipped : s.hears = true → s.channel.usage.isSome = true
  /-- Only who is busy has a call outstanding, and no more than one. -/
  outstanding : s.outstanding.length ≤ s.channel.busy.toNat

theorem Fresh.guarded (h : s.Fresh) : s.Guarded where
  deaf hbusy := by
    rw [h.busy] at hbusy
    cases hbusy
  equipped hhears := by
    rw [hears, h.phase] at hhears
    cases hhears
  outstanding := by simp [Session.outstanding, h.ready, h.waiting]

theorem Guarded.free (h : s.Guarded) (hhears : s.hears = true) : s.channel.busy = false := by
  by_contra hbusy
  rw [Bool.not_eq_false] at hbusy
  exact Bool.false_ne_true ((h.deaf hbusy).symm.trans hhears)

theorem Guarded.outstanding_nil (h : s.Guarded) (hfree : s.channel.busy = false) :
    s.outstanding = [] := by
  have hlength := h.outstanding
  rw [hfree] at hlength
  exact List.length_eq_zero_iff.mp (Nat.le_zero.mp hlength)

theorem Asks.outstanding_le {call : Call} (hbusy : s.channel.busy = true)
    (hnone : s.outstanding = []) (h : Asks s call s') :
    s'.outstanding.length ≤ s'.channel.busy.toNat := by
  cases h with
  | @ended t done channel ready waiting host =>
      have hnone' : (t.complete call done).outstanding = [] := by
        rw [Session.outstanding, complete_ready, ready]
        change t.waiting ++ _ = []
        rw [waiting]
        exact hnone
      simp [hnone']
  | waits query =>
      obtain ⟨hwaiting, hresumed⟩ := List.append_eq_nil_iff.mp hnone
      simp [Session.outstanding, hwaiting, hresumed, hbusy]

theorem Starts.outstanding_le (hle : s.outstanding.length ≤ s.channel.busy.toNat)
    (h : Starts s ticket s') : s'.outstanding.length ≤ s'.channel.busy.toNat := by
  have hentrance := (s.entrance_undisturbed ticket).busy_eq
  cases h with
  | @refused result c busy told calm =>
      have hbusy : ((s.withChannel c).finish ticket (result.map some)).channel.busy =
          s.channel.busy := told.busy_eq.trans hentrance
      rw [hbusy]
      exact hle
  | @blank result c free told =>
      have hbusy : ((s.withChannel c).finish ticket (result.map some)).channel.busy =
          s.channel.busy := told.busy_eq.trans hentrance
      rw [hbusy]
      exact hle
  | @raised fault c rough told =>
      have hbusy : ((s.withChannel c).finish ticket (.error fault)).channel.busy = true :=
        told.busy_eq
      rw [hbusy]
      exact Nat.le_trans hle (Bool.toNat_le _)
  | @running utterance c _ free told asks =>
      have hnone : s.outstanding = [] := by
        rw [free] at hle
        exact List.length_eq_zero_iff.mp (Nat.le_zero.mp hle)
      exact Asks.outstanding_le (s := s.withChannel c) told.busy_eq hnone asks

theorem Guarded.work (h : s.Guarded) {job : Job} {rest : List Job}
    (hrest : (job :: rest).Perm s.ready) :
    (({ s with ready := rest } : Session).work job).Guarded := by
  have hdeaf := work_deaf (s := { s with ready := rest }) h.deaf job
  refine ⟨fun _ => hdeaf, fun hhears => absurd hhears (by simp [hdeaf]), ?_⟩
  have hcalls := (outstanding_perm hrest).length_eq
  rw [List.length_append] at hcalls
  have hle := h.outstanding
  cases job with
  | commit ticket text origin =>
      refine (start_starts _ ticket text origin).outstanding_le ?_
      change _ ≤ s.channel.busy.toNat
      omega
  | resume call reply =>
      -- the call that ends is the only one
      have hone := Bool.toNat_le s.channel.busy
      simp only [Job.call?, Option.toList_some, List.length_singleton] at hcalls
      change ({ s with ready := rest } : Session).outstanding.length ≤ _
      omega

theorem Guarded.around (h : s.Guarded) (hworking : s.working m = none) : (s.move m).Guarded := by
  have haround := move_around hworking
  have hbusy := haround.undisturbed.busy_eq
  have hhandles := move_handles hworking
  refine ⟨?_, ?_, by rw [haround.outstanding.length_eq, hbusy]; exact h.outstanding⟩
  · intro hafter
    rw [hbusy] at hafter
    have hdeaf := h.deaf hafter
    cases hhandles with
    | kept hears usage => rw [hears, hdeaf]
    | ended ends hears usage =>
        by_contra hhears
        rw [Bool.not_eq_false] at hhears
        exact Bool.false_ne_true (hdeaf.symm.trans (hears hhears))
    | stopped deaf usage => exact deaf
    | started asked free hears u before usage =>
        rw [free] at hafter
        cases hafter
  · intro hafter
    cases hhandles with
    | kept hears usage =>
        rw [hears] at hafter
        rw [usage]
        exact h.equipped hafter
    | ended ends hears usage =>
        rw [usage]
        exact h.equipped (hears hafter)
    | stopped deaf usage =>
        rw [deaf] at hafter
        cases hafter
    | started asked free hears u before usage => rw [usage]; rfl

theorem Guarded.move (h : s.Guarded) (m : Move) : (s.move m).Guarded := by
  cases hworking : s.working m with
  | none => exact h.around hworking
  | some job =>
      obtain ⟨rest, hrest, hmove⟩ := move_working hworking
      rw [hmove]
      exact h.work hrest

theorem Guarded.through (h : s.Guarded) (moves : List Move) : (s.through moves).Guarded := by
  induction moves using List.reverseRecOn with
  | nil => exact h
  | append_singleton front m ih =>
      rw [through_snoc]
      exact ih.move m

/-! ### How often the microphone was started -/

theorem starts_of_stopped {c c' : Channel}
    (h : c'.usage = c.usage.map fun u => (u.1, u.2 + 1)) : c'.starts = c.starts := by
  rw [Channel.starts, h, Channel.starts]
  cases c.usage <;> rfl

theorem stops_of_stopped {c c' : Channel} (h : c'.usage = c.usage.map fun u => (u.1, u.2 + 1))
    (hequipped : c.usage.isSome = true) : c'.stops = c.stops + 1 := by
  obtain ⟨u, hu⟩ := Option.isSome_iff_exists.mp hequipped
  simp [Channel.stops, h, hu]

theorem starts_of_usage {c c' : Channel} (h : c'.usage = c.usage) : c'.starts = c.starts := by
  rw [Channel.starts, h, Channel.starts]

theorem work_starts (s : Session) (job : Job) : (s.work job).channel.starts = s.channel.starts := by
  cases job with
  | resume call reply => exact starts_of_usage (complete_usage ..)
  | commit ticket text origin =>
      cases hspoken : ticket.spoken with
      | true => exact starts_of_usage (start_spoken_usage hspoken text origin)
      | false =>
          cases hhears : s.hears with
          | true => exact starts_of_stopped (start_typed_usage hspoken hhears text origin)
          | false =>
              have husage := start_usage s ticket text origin
              rw [entrance_typed hspoken, Channel.stopListening_of_deaf hhears] at husage
              exact starts_of_usage husage

/-- A move starts the microphone, and then the channel hears it, or leaves the number of its
starts. -/
theorem move_starts (s : Session) (m : Move) :
    (s.move m).channel.starts = s.channel.starts ∨
      m = .event .startListening ∧ (s.move m).hears = true ∧
        (s.move m).channel.starts = s.channel.starts + 1 := by
  cases hworking : s.working m with
  | some job =>
      obtain ⟨rest, -, hmove⟩ := move_working hworking
      rw [hmove]
      exact Or.inl (work_starts { s with ready := rest } job)
  | none =>
      cases move_handles hworking with
      | kept hears usage => exact Or.inl (starts_of_usage usage)
      | ended ends hears usage => exact Or.inl (starts_of_usage usage)
      | stopped deaf usage => exact Or.inl (starts_of_stopped usage)
      | started asked free hears u before usage =>
          exact Or.inr ⟨asked, hears, by simp [Channel.starts, before, usage]⟩

theorem through_starts_le (s : Session) (moves : List Move) :
    s.channel.starts ≤ (s.through moves).channel.starts := by
  induction moves using List.reverseRecOn with
  | nil => exact Nat.le_refl _
  | append_singleton front m ih =>
      rw [through_snoc]
      rcases move_starts (s.through front) m with hsame | ⟨-, -, hmore⟩ <;> omega

/-- A channel hears only what it heard before, or what it has just started. -/
theorem heard_of_move (hguarded : s.channel.busy = true → s.hears = false)
    (hafter : (s.move m).hears = true) :
    s.hears = true ∨ m = .event .startListening ∧
      (s.move m).channel.starts = s.channel.starts + 1 := by
  cases hworking : s.working m with
  | some job =>
      rw [working_deaf hguarded hworking] at hafter
      cases hafter
  | none =>
      cases move_handles hworking with
      | kept hears usage => exact Or.inl (hears.symm.trans hafter)
      | ended ends hears usage => exact Or.inl (hears hafter)
      | stopped deaf usage =>
          rw [deaf] at hafter
          cases hafter
      | started asked free hears u before usage =>
          exact Or.inr ⟨asked, by simp [Channel.starts, before, usage]⟩

/-! ### Captures -/

/-- The move runs a spoken commit. -/
def RunsSpoken (s : Session) (m : Move) : Prop :=
  ∃ ticket text origin, s.working m = some (.commit ticket text origin) ∧ ticket.spoken = true

/-- A spoken commit has been run since the microphone was last started. -/
def SpokenSince (s : Session) (moves : List Move) : Prop :=
  ∃ front begin since, moves = front ++ begin :: since ∧ (s.through front).RunsSpoken begin ∧
    (s.through front).channel.starts = (s.through moves).channel.starts

/-- Whether a capture runs after a move, if one ran before or not. -/
def runsAfter (s : Session) (running : Bool) (m : Move) : Bool :=
  if s.channel.starts < (s.move m).channel.starts then true
  else if s.channel.stops < (s.move m).channel.stops then false
  else running && !m.endsCapture

/-- Whether a capture runs after some moves, if one ran before or not. -/
def runsThrough (s : Session) (running : Bool) : List Move → Bool
  | [] => running
  | m :: rest => (s.move m).runsThrough (s.runsAfter running m) rest

theorem runsThrough_snoc (front : List Move) (m : Move) : ∀ (s : Session) (running : Bool),
    s.runsThrough running (front ++ [m]) =
      (s.through front).runsAfter (s.runsThrough running front) m := by
  induction front with
  | nil => exact fun _ _ => rfl
  | cons first rest ih => exact fun s running => ih (s.move first) (s.runsAfter running first)

theorem spokenSince_snoc {front : List Move} :
    s.SpokenSince (front ++ [m]) ↔
      (s.SpokenSince front ∨ (s.through front).RunsSpoken m) ∧
        (s.through (front ++ [m])).channel.starts = (s.through front).channel.starts := by
  constructor
  · rintro ⟨first, begin, since, hsplit, hspoken, hstarts⟩
    rcases since.eq_nil_or_concat with rfl | ⟨since, last, rfl⟩
    · obtain ⟨rfl, hlast⟩ := List.append_inj' hsplit rfl
      obtain rfl : m = begin := by simpa using hlast
      exact ⟨Or.inr hspoken, hstarts.symm⟩
    · rw [List.concat_eq_append, ← List.cons_append, ← List.append_assoc] at hsplit
      obtain ⟨rfl, hlast⟩ := List.append_inj' hsplit rfl
      -- the starts between the commit and the end enclose those of the last move
      have hlow := through_starts_le (s.through first) (begin :: since)
      have hhigh := through_starts_le (s.through (first ++ begin :: since)) [m]
      rw [← through_append] at hlow hhigh
      exact ⟨Or.inl ⟨first, begin, since, rfl, hspoken, by omega⟩, by omega⟩
  · rintro ⟨⟨first, begin, since, rfl, hspoken, hbefore⟩ | hspoken, hstarts⟩
    · exact ⟨first, begin, since ++ [m], by simp, hspoken, hbefore.trans hstarts.symm⟩
    · exact ⟨front, m, [], rfl, hspoken, hstarts.symm⟩

/-- A move that leaves a capture running leaves it heard unless it runs a spoken commit. -/
theorem Guarded.hears_move_iff (h : s.Guarded)
    (hstarts : (s.move m).channel.starts = s.channel.starts)
    (hstops : ¬ s.channel.stops < (s.move m).channel.stops) (hends : m.endsCapture = false) :
    (s.move m).hears = true ↔ s.hears = true ∧ ¬ s.RunsSpoken m := by
  cases hworking : s.working m with
  | none =>
      have hnone : ¬ s.RunsSpoken m := by
        rintro ⟨ticket, text, origin, hsome, -⟩
        rw [hworking] at hsome
        cases hsome
      cases move_handles hworking with
      | kept hears usage => simp [hears, hnone]
      | ended ends hears usage =>
          rw [hends] at ends
          cases ends
      | stopped deaf usage =>
          have hdeaf : ¬ s.hears = true := by
            intro hhears
            have hmore := stops_of_stopped usage (h.equipped hhears)
            omega
          simp [deaf, hdeaf]
      | started asked free hears u before usage =>
          simp [Channel.starts, before, usage] at hstarts
  | some job =>
      obtain ⟨rest, -, hmove⟩ := move_working hworking
      rw [working_deaf h.deaf hworking]
      refine iff_of_false Bool.false_ne_true ?_
      rintro ⟨hhears, hunspoken⟩
      cases job with
      | resume call reply =>
          have hcall : call ∈ s.outstanding :=
            mem_outstanding.mpr (Or.inr ⟨reply, working_mem hworking⟩)
          rw [h.outstanding_nil (h.free hhears)] at hcall
          cases hcall
      | commit ticket text origin =>
          refine hunspoken ⟨ticket, text, origin, hworking, ?_⟩
          by_contra hspoken
          rw [Bool.not_eq_true] at hspoken
          have husage :=
            start_typed_usage (s := { s with ready := rest }) hspoken hhears text origin
          have hmore := stops_of_stopped husage (h.equipped hhears)
          rw [hmove] at hstops
          exact hstops (hmore ▸ Nat.lt_succ_self _)

/-- **A capture that runs is heard exactly as long as no spoken commit has been run since the
microphone was started.**  Such a commit was accepted from an earlier capture and left waiting
while the microphone was stopped and started again. -/
theorem running_heard_iff (hfresh : s.Fresh) (moves : List Move)
    (hruns : s.runsThrough false moves = true) :
    (s.through moves).hears = true ↔ ¬ s.SpokenSince moves := by
  induction moves using List.reverseRecOn with
  | nil => cases hruns
  | append_singleton front m ih =>
      have hguarded := hfresh.guarded.through front
      rw [runsThrough_snoc, runsAfter] at hruns
      rw [spokenSince_snoc, through_snoc]
      rcases move_starts (s.through front) m with hsame | ⟨-, hhears, hmore⟩
      · rw [if_neg (by omega)] at hruns
        split at hruns
        · cases hruns
        · next hstops =>
            rw [Bool.and_eq_true, Bool.not_eq_true'] at hruns
            rw [hguarded.hears_move_iff hsame hstops hruns.2, ih hruns.1]
            simp [hsame]
      · simp only [hhears, hmore]
        simp

/-- A commit waits while the microphone is stopped and started again, and then it is run. -/
def staleTranscript : List Move :=
  [.event .startListening, .event (.voice 1 (.final "add a clock")), .event .stopListening,
    .event .startListening, .event .run]

theorem running_heard_iff_stale :
    initial.Fresh ∧ initial.runsThrough false staleTranscript = true ∧
      ((initial.through staleTranscript).hears = true ↔ ¬ initial.SpokenSince staleTranscript) := by
  have hruns : initial.runsThrough false staleTranscript = true := by decide +kernel
  exact ⟨initial_fresh, hruns, running_heard_iff initial_fresh staleTranscript hruns⟩

/-- Then a capture runs in the phase of a commit, and closing the interface does not stop it. -/
theorem capture_unheard :
    initial.runsThrough false staleTranscript = true ∧
      (initial.through staleTranscript).channel.phase = .committed ∧
      initial.runsThrough false (staleTranscript ++ [.event .close]) = true := by
  decide +kernel

end Session

end CommandBar
