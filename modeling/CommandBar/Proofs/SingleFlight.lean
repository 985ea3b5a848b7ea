/-
One call at a time.

The channel goes to the interpreter for one commit only: while a call is
outstanding it is busy and in the phase of a commit, and a commit that begins then
is turned away.  This depends on nothing that the interpreter does, so besides the
moves there is a turn that ends a call with any outcome at all.

The invariant (`Single`) counts the calls that are outstanding and compares them
with the flag.  It needs a listener that never fails: when telling the user that a
commit has begun goes wrong, the flag stays up with no call to take it down.
-/
import CommandBar.Proofs.Interleaving
import Mathlib.Data.List.Induction

namespace CommandBar

/-- A move, or the end of a call. -/
inductive Turn
  | move (m : Move)
  /-- The call at that place among the waiting ones ends, and this is what came of it. -/
  | complete (place : Nat) (done : Interpretation)

namespace Session

/-- What happens at a turn. -/
def turn (s : Session) : Turn → Session
  | .move m => s.move m
  | .complete place done =>
    match s.waiting[place]? with
    | none => s
    | some call => { s with waiting := s.waiting.eraseIdx place }.complete call done

/-- The session after some turns. -/
def play (s : Session) (turns : List Turn) : Session :=
  turns.foldl turn s

/-- The call that a turn ends. -/
def ending (s : Session) : Turn → Option Call
  | .move m => (s.working m).bind Job.call?
  | .complete place _ => s.waiting[place]?

/-- The channel is busy just with the call that is outstanding. -/
structure Single (s : Session) : Prop where
  steady : s.channel.Steady
  outstanding : s.outstanding.length = s.channel.busy.toNat

/-- No call is outstanding, and the next commit can begin. -/
structure Idle (s : Session) : Prop where
  busy : s.channel.busy = false
  phase : s.channel.phase = .idle
  outstanding : s.outstanding = []

/-- A commit is turned away: it ends with the feedback that another one is under way, and all
that is changed besides is what the user is told. -/
structure Refused (s : Session) (ticket : Ticket) (s' : Session) : Prop where
  finished : s'.finished =
    s.finished ++ [(ticket.number, .ok (some (.failed .input Channel.busyFeedback)))]
  queries : s'.queries = s.queries
  replies : s'.replies = s.replies
  host : s'.host = s.host
  log : s'.log = s.log
  phase : s'.channel.phase = s.channel.phase
  busy : s'.channel.busy = s.channel.busy
  draft : s'.channel.draft = s.channel.draft
  interface : s'.channel.interface = s.channel.interface
  outstanding : s'.outstanding = s.outstanding

variable {s s' : Session} {call : Call} {ticket : Ticket}

theorem play_snoc (s : Session) (front : List Turn) (t : Turn) :
    s.play (front ++ [t]) = (s.play front).turn t :=
  List.foldl_concat ..

/-! ### The invariant -/

theorem Fresh.single (h : s.Fresh) (hcalm : s.channel.listener.Calm) : s.Single where
  steady := ⟨by simp [h.busy, h.phase], hcalm⟩
  outstanding := by simp [Session.outstanding, h.ready, h.waiting, h.busy]

theorem Idle.single (h : s.Idle) (hcalm : s.channel.listener.Calm) : s.Single where
  steady := ⟨by simp [h.busy, h.phase], hcalm⟩
  outstanding := by simp [h.outstanding, h.busy]

/-- It is kept when no call ends or is made. -/
theorem Single.of_undisturbed (h : s.Single) (hundisturbed : s.channel.Undisturbed s'.channel)
    (houtstanding : s'.outstanding.Perm s.outstanding) : s'.Single where
  steady := hundisturbed.steady h.steady
  outstanding := by rw [houtstanding.length_eq, h.outstanding, hundisturbed.busy_eq]

/-- Besides one call there is no other. -/
theorem Single.others_eq_nil (h : s.Single) {others : List Call}
    (hcall : (call :: others).Perm s.outstanding) : others = [] := by
  have hlength := h.outstanding
  have hbusy := Bool.toNat_le s.channel.busy
  rw [← hcall.length_eq, List.length_cons] at hlength
  exact List.length_eq_zero_iff.mp (by omega)

theorem Single.outstanding_nil (h : s.Single) (hfree : s.channel.busy = false) :
    s.outstanding = [] := by
  have hlength := h.outstanding
  rw [hfree] at hlength
  exact List.length_eq_zero_iff.mp hlength

/-- There is only one order for so few calls. -/
theorem Single.eq_of_perm (h : s.Single) {calls : List Call} (hcalls : calls.Perm s.outstanding) :
    calls = s.outstanding := by
  cases hfirst : s.outstanding with
  | nil =>
      rw [hfirst] at hcalls
      exact hcalls.eq_nil
  | cons call others =>
      obtain rfl : others = [] := h.others_eq_nil (.of_eq hfirst.symm)
      rw [hfirst] at hcalls
      exact List.perm_singleton.mp hcalls

theorem outstanding_perm {job : Job} {rest : List Job} (h : (job :: rest).Perm s.ready) :
    (job.call?.toList ++ ({ s with ready := rest } : Session).outstanding).Perm
      s.outstanding := by
  have hcalls := h.filterMap Job.call?
  have hfirst : (job :: rest).filterMap Job.call? =
      job.call?.toList ++ rest.filterMap Job.call? := by
    cases job <;> rfl
  rw [hfirst] at hcalls
  have hswap : (job.call?.toList ++ (s.waiting ++ rest.filterMap Job.call?)).Perm
      (s.waiting ++ (job.call?.toList ++ rest.filterMap Job.call?)) := by
    rw [← List.append_assoc, ← List.append_assoc]
    exact List.perm_append_comm.append_right _
  exact hswap.trans (hcalls.append_left _)

/-! ### The end of a call -/

/-- Whatever came of a call, the channel is idle when it has ended. -/
theorem complete_idle (hnone : s.outstanding = []) (hcalm : s.channel.listener.Calm)
    (call : Call) (done : Interpretation) :
    (s.complete call done).Idle ∧ (s.complete call done).Single := by
  have hidle : (s.complete call done).Idle :=
    ⟨Channel.finish_busy .., Channel.finish_phase .., hnone⟩
  have htold := Channel.finish_told s.channel call.generation done.result
  exact ⟨hidle, hidle.single (htold.calm hcalm)⟩

/-- The call that ends is the only one, so none is left. -/
theorem Single.ending_idle (h : s.Single) {t : Turn} (hending : s.ending t = some call) :
    (s.turn t).Idle ∧ (s.turn t).Single := by
  cases t with
  | complete place done =>
      simp only [ending] at hending
      obtain ⟨hlt, rfl⟩ := List.getElem?_eq_some_iff.mp hending
      have hnone : ({ s with waiting := s.waiting.eraseIdx place } : Session).outstanding = [] :=
        h.others_eq_nil ((List.getElem_cons_eraseIdx_perm hlt).append_right _)
      simp only [turn, hending]
      exact complete_idle hnone h.steady.calm _ done
  | move m =>
      simp only [ending, Option.bind_eq_some_iff] at hending
      obtain ⟨job, hworking, hcall⟩ := hending
      obtain ⟨rest, hrest, hmove⟩ := move_working hworking
      cases job with
      | commit => simp [Job.call?] at hcall
      | resume call' reply =>
          have hnone : ({ s with ready := rest } : Session).outstanding = [] :=
            h.others_eq_nil (outstanding_perm hrest)
          rw [turn, hmove]
          exact complete_idle hnone h.steady.calm call' _

/-! ### The beginning of a commit -/

/-- A commit leaves the channel busy with the one call that it makes, or idle. -/
theorem Single.asks (hsteady : s.channel.Steady) (hbusy : s.channel.busy = true)
    (hnone : s.outstanding = []) (h : s.Asks call s') :
    s'.Single ∧ (s'.channel.busy = false → s'.Idle) := by
  cases h with
  | @ended t done channel ready waiting host =>
      have hnone' : t.outstanding = [] := by
        rw [Session.outstanding, ready, waiting]
        exact hnone
      have hcalm : t.channel.listener.Calm := by
        rw [channel]
        exact hsteady.calm
      have hafter := complete_idle hnone' hcalm call done
      exact ⟨hafter.2, fun _ => hafter.1⟩
  | waits query =>
      obtain ⟨hwaiting, hresumed⟩ := List.append_eq_nil_iff.mp hnone
      refine ⟨⟨hsteady, ?_⟩, fun hfree => ?_⟩
      · simp [Session.outstanding, hwaiting, hresumed, hbusy]
      · exact absurd hbusy (by simpa using hfree)

theorem Single.starts (h : s.Single) (hstarts : s.Starts ticket s') :
    s'.Single ∧ (s.channel.busy = false → s'.channel.busy = false → s'.Idle) := by
  have hentrance := s.entrance_undisturbed ticket
  have hcalm : (s.entrance ticket).listener.Calm := (hentrance.steady h.steady).calm
  cases hstarts with
  | refused busy told calm =>
      have hsingle := h.of_undisturbed
        (withChannel_undisturbed (hentrance.trans told.undisturbed)) (.refl _)
      refine ⟨⟨hsingle.steady, hsingle.outstanding⟩, fun hfree => ?_⟩
      rw [hfree] at busy
      cases busy
  | @blank result c free told =>
      have hbusy : c.busy = false := told.busy_eq.trans (hentrance.busy_eq.trans free)
      have hidle : ((s.withChannel c).finish ticket (result.map some)).Idle :=
        ⟨hbusy, told.phase_eq, h.outstanding_nil free⟩
      exact ⟨hidle.single (told.calm hcalm), fun _ _ => hidle⟩
  | raised rough told => exact absurd h.steady.calm rough
  | @running utterance c _ free told asks =>
      have hbusy : c.busy = true := told.busy_eq
      have hsteady : c.Steady := told.steady ⟨by simp, hcalm⟩
      have hafter := Single.asks (s := s.withChannel c) ⟨hsteady.busy_iff, hsteady.calm⟩ hbusy
        (h.outstanding_nil free) asks
      exact ⟨hafter.1, fun _ => hafter.2⟩

/-- A commit that begins while the channel is busy is turned away. -/
theorem Single.refuses (h : s.Single) (hbusy : s.channel.busy = true)
    (hstarts : s.Starts ticket s') : Refused s ticket s' := by
  -- during a commit the microphone is not in use, so a typed one does not stop it
  have hentrance : s.entrance ticket = s.channel := by
    unfold entrance
    rw [h.steady.stopListening_eq hbusy, ite_self]
  cases hstarts with
  | @refused result c busy told calm =>
      rw [hentrance] at told
      exact {
        finished := by rw [calm h.steady.calm]; rfl
        queries := rfl
        replies := rfl
        host := rfl
        log := rfl
        phase := told.phase_eq
        busy := told.busy_eq
        draft := told.draft_eq
        interface := told.interface_eq
        outstanding := rfl }
  | blank free told =>
      rw [hbusy] at free
      cases free
  | raised rough told => exact absurd h.steady.calm rough
  | running free told asks =>
      rw [hbusy] at free
      cases free

/-! ### Turns -/

/-- The session as it is when a commit that was ready begins. -/
theorem Single.take (h : s.Single) {rest : List Job} {text : Option String} {origin : String}
    (hrest : (.commit ticket text origin :: rest).Perm s.ready) :
    ({ s with ready := rest } : Session).Single :=
  h.of_undisturbed (.refl _) (outstanding_perm hrest)

/-- A turn keeps the invariant: it ends the call, or begins a commit, or does neither. -/
theorem Single.turn (h : s.Single) (t : Turn) : (s.turn t).Single := by
  cases hending : s.ending t with
  | some call => exact (h.ending_idle hending).2
  | none =>
      cases t with
      | complete place done =>
          simp only [ending] at hending
          simpa only [Session.turn, hending] using h
      | move m =>
          rw [Session.turn]
          cases hworking : s.working m with
          | none =>
              have haround := move_around hworking
              exact h.of_undisturbed haround.undisturbed haround.outstanding
          | some job =>
              obtain ⟨rest, hrest, hmove⟩ := move_working hworking
              cases job with
              | resume call reply => simp [ending, hworking, Job.call?] at hending
              | commit ticket text origin =>
                  rw [hmove]
                  exact ((h.take hrest).starts (start_starts ..)).1

theorem Single.play (h : s.Single) (turns : List Turn) : (s.play turns).Single := by
  induction turns using List.reverseRecOn with
  | nil => exact h
  | append_singleton front t ih =>
      rw [play_snoc]
      exact ih.turn t

theorem Single.refused_move (h : s.Single) (hbusy : s.channel.busy = true) {m : Move}
    {text : Option String} {origin : String}
    (hworking : s.working m = some (.commit ticket text origin)) :
    Refused s ticket (s.move m) := by
  obtain ⟨rest, hrest, hmove⟩ := move_working hworking
  have hrefused := (h.take hrest).refuses hbusy (start_starts _ ticket text origin)
  have houtstanding : ({ s with ready := rest } : Session).outstanding = s.outstanding :=
    h.eq_of_perm (outstanding_perm hrest)
  rw [hmove]
  exact { hrefused with outstanding := hrefused.outstanding.trans houtstanding }

/-- A call that no turn ends stays outstanding, alone. -/
theorem Single.outstanding_turn (h : s.Single) (hbusy : s.channel.busy = true) {t : Turn}
    (hending : s.ending t = none) : (s.turn t).outstanding = s.outstanding := by
  cases t with
  | complete place done =>
      simp only [ending] at hending
      simp only [Session.turn, hending]
  | move m =>
      cases hworking : s.working m with
      | none => exact h.eq_of_perm (move_around hworking).outstanding
      | some job =>
          cases job with
          | resume call reply => simp [ending, hworking, Job.call?] at hending
          | commit ticket text origin => exact (h.refused_move hbusy hworking).outstanding

/-- A commit that begins while the channel is free and leaves it free leaves it idle. -/
theorem Single.idle_move (h : s.Single) (hfree : s.channel.busy = false) {m : Move}
    {text : Option String} {origin : String}
    (hworking : s.working m = some (.commit ticket text origin))
    (hfree' : (s.move m).channel.busy = false) : (s.move m).Idle := by
  obtain ⟨rest, hrest, hmove⟩ := move_working hworking
  rw [hmove] at hfree' ⊢
  exact ((h.take hrest).starts (start_starts ..)).2 hfree hfree'

/-- **At most one call is outstanding at any time, and the channel is busy, and in the phase of a
commit, exactly when one is.**  A commit that begins then is turned away before it reaches the
interpreter.  The call stays until a turn ends it, and in whatever way that happens the channel is
idle afterwards; so it is when a commit ends as it begins. -/
theorem single_flight (hfresh : s.Fresh) (hcalm : s.channel.listener.Calm) (turns : List Turn) :
    (s.play turns).outstanding.length ≤ 1 ∧
      ((s.play turns).channel.busy = true ↔ (s.play turns).channel.phase = .committed) ∧
      ((s.play turns).channel.busy = true ↔ (s.play turns).outstanding.length = 1) ∧
      (∀ m ticket text origin,
        (s.play turns).working m = some (.commit ticket text origin) →
        (s.play turns).channel.busy = true →
        Refused (s.play turns) ticket ((s.play turns).move m)) ∧
      (∀ m ticket text origin,
        (s.play turns).working m = some (.commit ticket text origin) →
        (s.play turns).channel.busy = false →
        ((s.play turns).move m).channel.busy = false → ((s.play turns).move m).Idle) ∧
      (∀ t call, (s.play turns).ending t = some call → ((s.play turns).turn t).Idle) ∧
      ∀ t, (s.play turns).ending t = none → (s.play turns).channel.busy = true →
        ((s.play turns).turn t).outstanding = (s.play turns).outstanding := by
  have hsingle := (hfresh.single hcalm).play turns
  have hlength := hsingle.outstanding
  refine ⟨?_, hsingle.steady.busy_iff, ?_, ?_, ?_, ?_, ?_⟩
  · rw [hlength]
    exact Bool.toNat_le _
  · rw [hlength]
    cases (s.play turns).channel.busy <;> simp
  · exact fun m ticket text origin hworking hbusy => hsingle.refused_move hbusy hworking
  · exact fun m ticket text origin hworking hfree => hsingle.idle_move hfree hworking
  · exact fun t call hending => (hsingle.ending_idle hending).1
  · exact fun t hending hbusy => hsingle.outstanding_turn hbusy hending

/-- The second of two commands that come in a row is turned away. -/
theorem single_flight_second :
    initial.Fresh ∧ initial.channel.listener.Calm ∧
      Refused
        (initial.play [.move (.event (.submit 1 (some "add a clock") "typed")), .move (.run 0),
          .move (.event (.submit 2 (some "add a note") "typed"))]) ⟨2, false⟩
        ((initial.play [.move (.event (.submit 1 (some "add a clock") "typed")), .move (.run 0),
          .move (.event (.submit 2 (some "add a note") "typed"))]).move (.run 0)) := by
  have hcalm : initial.channel.listener.Calm := by simp [Listener.Calm, initial]
  have hrefused := (single_flight initial_fresh hcalm
    [.move (.event (.submit 1 (some "add a clock") "typed")), .move (.run 0),
      .move (.event (.submit 2 (some "add a note") "typed"))]).2.2.2.1
  exact ⟨initial_fresh, hcalm,
    hrefused (.run 0) ⟨2, false⟩ (some "add a note") "typed" (by decide) (by decide)⟩

end Session

end CommandBar
