/-
Sessions in which things happen in any order.

The events of a session run the jobs that are ready in the order in which they
became ready.  A move runs any of them, so a row of moves is an arbitrary
interleaving of what the user does, what the microphone and the oracle report, and
what the commits do.

A move either runs a job or does not, and what it does is said once for each: a move
that runs no job leaves the calls that are outstanding alone (`Around`), and a job
that is run is a commit that begins (`Starts`) or a call that ends.  Only opening and
closing touch the interface (`move_interface`).
-/
import CommandBar.Proofs.Channel
import CommandBar.Session
import Mathlib.Data.List.Perm.Basic

namespace CommandBar

/-- The call that a job goes on with. -/
def Job.call? : Job → Option Call
  | .commit .. => none
  | .resume call _ => some call

/-- What can happen next. -/
inductive Move
  | event (event : Session.Event)
  /-- The job at that place among the ready ones is run. -/
  | run (place : Nat)
  /-- From now on the microphone starts, or refuses to with those words. -/
  | device (refusal : Option String)

/-- The number of the commit that a move asks for. -/
def Move.number? : Move → Option Nat
  | .event (.submit number _ _) => some number
  | .event (.voice number (.final _)) => some number
  | _ => none

/-- When the interface is closed, a reply comes to nothing, whatever it is. -/
theorem Interpreter.conclude_closed (i : Interpreter) (u : Utterance) (reply : Reply)
    (host : Host) :
    (i.conclude u [false] reply host).result = .ok none ∧
      (i.conclude u [false] reply host).host = host := by
  unfold Interpreter.conclude
  cases Gateway.accept reply with
  | error e => exact ⟨rfl, rfl⟩
  | ok raw => exact ⟨rfl, rfl⟩

namespace Session

/-- The calls that have not ended: their query is made, and they wait for the reply or have just
got it. -/
def outstanding (s : Session) : List Call :=
  s.waiting ++ s.ready.filterMap Job.call?

/-- The numbers of the commits that have not ended. -/
def numbers (s : Session) : List Nat :=
  s.ready.map (·.ticket.number) ++ s.waiting.map (·.ticket.number)

/-- Nothing has been asked for yet. -/
structure Fresh (s : Session) : Prop where
  ready : s.ready = []
  waiting : s.waiting = []
  busy : s.channel.busy = false
  phase : s.channel.phase = .idle

/-- A session in which nothing has happened, with a microphone and an empty dashboard. -/
def initial : Session where
  host := { dashboard := {} }
  channel := { microphone := some {} }
  time := ""

theorem initial_fresh : initial.Fresh :=
  ⟨rfl, rfl, rfl, rfl⟩

/-! ### Moves -/

/-- Runs a job. -/
def work (s : Session) : Job → Session
  | .commit ticket text origin => s.start ticket text origin
  | .resume call reply => s.resume call reply

/-- Runs the ready job at some place. -/
def runAt (s : Session) (place : Nat) : Session :=
  match s.ready[place]? with
  | none => s
  | some job => { s with ready := s.ready.eraseIdx place }.work job

/-- What happens at a move. -/
def move (s : Session) : Move → Session
  | .event event => (s.step event).2
  | .run place => s.runAt place
  | .device refusal =>
    { s with channel.microphone := s.channel.microphone.map fun m => { m with refusal } }

/-- The session after some moves. -/
def through (s : Session) (moves : List Move) : Session :=
  moves.foldl move s

/-- The job that a move runs. -/
def working (s : Session) : Move → Option Job
  | .event .run => s.ready[0]?
  | .run place => s.ready[place]?
  | _ => none

theorem through_append (s : Session) (front back : List Move) :
    s.through (front ++ back) = (s.through front).through back :=
  List.foldl_append ..

theorem through_snoc (s : Session) (front : List Move) (m : Move) :
    s.through (front ++ [m]) = (s.through front).move m :=
  List.foldl_concat ..

theorem through_split (s : Session) (front : List Move) (m : Move) (back : List Move) :
    s.through (front ++ m :: back) = ((s.through front).move m).through back :=
  through_append s front (m :: back)

/-- The first job is run like any other. -/
theorem runNext_eq_runAt (s : Session) : s.runNext = s.runAt 0 := by
  unfold runNext runAt
  split
  · next h => simp [h]
  · next h => simp [h, work]
  · next h => simp [h, work]

variable {s : Session} {m : Move} {call : Call}

theorem mem_outstanding :
    call ∈ s.outstanding ↔ call ∈ s.waiting ∨ ∃ reply, .resume call reply ∈ s.ready := by
  unfold outstanding
  rw [List.mem_append, List.mem_filterMap]
  constructor
  · rintro (h | ⟨job, hjob, hcall⟩)
    · exact Or.inl h
    · cases job with
      | commit => simp [Job.call?] at hcall
      | resume call' reply =>
          obtain rfl : call' = call := by simpa [Job.call?] using hcall
          exact Or.inr ⟨reply, hjob⟩
  · rintro (h | ⟨reply, h⟩)
    · exact Or.inl h
    · exact Or.inr ⟨_, h, rfl⟩

/-! ### What runs no job -/

/-- What a move does that runs no job: it asks for a commit at most, and the calls stay. -/
structure Around (s : Session) (m : Move) (s' : Session) : Prop where
  undisturbed : s.channel.Undisturbed s'.channel
  outstanding : s'.outstanding.Perm s.outstanding
  numbers : ∃ asked : List Nat, asked.Sublist m.number?.toList ∧
    s'.numbers.Perm (asked ++ s.numbers)
  commit : ∀ ticket text origin, .commit ticket text origin ∈ s'.ready →
    .commit ticket text origin ∈ s.ready ∨ m.number? = some ticket.number

/-- The queue and the calls are the same. -/
theorem Around.of_eq {s' : Session} (hundisturbed : s.channel.Undisturbed s'.channel)
    (hready : s'.ready = s.ready) (hwaiting : s'.waiting = s.waiting) : Around s m s' where
  undisturbed := hundisturbed
  outstanding := by rw [Session.outstanding, hready, hwaiting]; rfl
  numbers := ⟨[], List.nil_sublist _, by rw [Session.numbers, hready, hwaiting]; rfl⟩
  commit _ _ _ h := Or.inl (by rwa [hready] at h)

/-- A commit is asked for. -/
theorem Around.of_commit {s' : Session} {ticket : Ticket} {text : Option String}
    {origin : String} (hundisturbed : s.channel.Undisturbed s'.channel)
    (hready : s'.ready = s.ready ++ [.commit ticket text origin])
    (hwaiting : s'.waiting = s.waiting) (hnumber : m.number? = some ticket.number) :
    Around s m s' where
  undisturbed := hundisturbed
  outstanding := by
    have hnone : [Job.commit ticket text origin].filterMap Job.call? = [] := rfl
    rw [Session.outstanding, hready, hwaiting, List.filterMap_append, hnone, List.append_nil]
    exact .refl _
  numbers := by
    refine ⟨[ticket.number], by simp [hnumber], ?_⟩
    rw [Session.numbers, hready, hwaiting, List.map_append]
    exact (List.perm_append_comm.append_right _).trans (by simp [Session.numbers, Job.ticket])
  commit ticket' text' origin' h := by
    rw [hready, List.mem_append, List.mem_singleton] at h
    rcases h with h | h
    · exact Or.inl h
    · cases h
      exact Or.inr hnumber

theorem take_around (s : Session) (reply : Reply) : Around s m (s.take reply) := by
  unfold take
  split
  · next call rest hwaiting =>
      refine ⟨.refl _, ?_, ⟨[], List.nil_sublist _, ?_⟩, ?_⟩
      · simp only [Session.outstanding, hwaiting, List.filterMap_append]
        rw [← List.append_assoc]
        exact List.perm_append_singleton call _
      · simp only [Session.numbers, hwaiting, List.map_append, List.nil_append, List.append_assoc]
        exact .refl _
      · intro ticket text origin h
        exact Or.inl (by simpa using h)
  · exact .of_eq (.refl _) rfl rfl

theorem withChannel_undisturbed {c : Channel} (h : s.channel.Undisturbed c) :
    s.channel.Undisturbed (s.withChannel c).channel :=
  h.trans ⟨rfl, fun hsteady => ⟨hsteady.busy_iff, hsteady.calm⟩⟩

theorem hear_around (s : Session) (number : Nat) (event : VoiceEvent) :
    Around s (.event (.voice number event)) (s.hear number event).2 := by
  have hundisturbed := Channel.hear_undisturbed s.channel event
  unfold hear
  split
  · next h =>
      rw [h] at hundisturbed
      exact .of_eq (withChannel_undisturbed hundisturbed) rfl rfl
  · next h =>
      rw [h] at hundisturbed
      exact .of_eq (withChannel_undisturbed hundisturbed) rfl rfl
  · next transcript c h =>
      rw [h] at hundisturbed
      refine .of_commit (withChannel_undisturbed hundisturbed) rfl rfl ?_
      rw [Channel.hear_final h]
      rfl

theorem move_around (h : s.working m = none) : Around s m (s.move m) := by
  cases m with
  | run place =>
      simp only [working] at h
      simp only [move, runAt, h]
      exact .of_eq (.refl _) rfl rfl
  | device refusal =>
      exact .of_eq ⟨rfl, fun hsteady => ⟨hsteady.busy_iff, hsteady.calm⟩⟩ rfl rfl
  | event event =>
      cases event with
      | submit number text origin => exact .of_commit (.refl _) rfl rfl rfl
      | reply reply => exact take_around s reply
      | voice number event => exact hear_around s number event
      | reopen =>
          exact .of_eq (withChannel_undisturbed (Channel.reopen_undisturbed _)) rfl rfl
      | close =>
          exact .of_eq (withChannel_undisturbed (Channel.close_undisturbed _)) rfl rfl
      | startListening =>
          exact .of_eq (withChannel_undisturbed (Channel.startListening_undisturbed _)) rfl rfl
      | stopListening =>
          exact .of_eq (withChannel_undisturbed (Channel.stopListening_undisturbed _)) rfl rfl
      | change change => exact .of_eq (.refl _) rfl rfl
      | run =>
          simp only [working] at h
          simp only [move, step, runNext_eq_runAt, runAt, h]
          exact .of_eq (.refl _) rfl rfl

/-! ### What runs a job -/

/-- The ways in which a call goes on from its query. -/
inductive Asks (s : Session) (call : Call) : Session → Prop
  /-- It ends at once, and applies nothing if the interface is closed to it. -/
  | ended {t : Session} {done : Interpretation} (channel : t.channel = s.channel)
      (ready : t.ready = s.ready) (waiting : t.waiting = s.waiting)
      (host : s.channel.isLive call.generation = false → done.host = s.host) :
      Asks s call (t.complete call done)
  /-- It waits for a reply. -/
  | waits (query : Query) :
      Asks s call { s with queries := s.queries ++ [query], waiting := s.waiting ++ [call] }

/-- The ways in which a commit goes from its beginning. -/
inductive Starts (s : Session) (ticket : Ticket) : Session → Prop
  /-- Another one is under way. -/
  | refused {result : Except Fault Outcome} {c : Channel} (busy : s.channel.busy = true)
      (told : (s.entrance ticket).Told c)
      (calm : s.channel.listener.Calm → result = .ok (.failed .input Channel.busyFeedback)) :
      Starts s ticket ((s.withChannel c).finish ticket (result.map some))
  /-- There is nothing to commit. -/
  | blank {result : Except Fault Outcome} {c : Channel} (free : s.channel.busy = false)
      (told : Channel.Told { s.entrance ticket with phase := .idle } c) :
      Starts s ticket ((s.withChannel c).finish ticket (result.map some))
  /-- The listener fails, and the commit goes no further. -/
  | raised {fault : Fault} {c : Channel} (rough : ¬ s.channel.listener.Calm)
      (told : Channel.Told { s.entrance ticket with busy := true, phase := .committed } c) :
      Starts s ticket ((s.withChannel c).finish ticket (.error fault))
  /-- It makes its query. -/
  | running {utterance : Utterance} {c : Channel} {s' : Session} (free : s.channel.busy = false)
      (told : Channel.Told { s.entrance ticket with busy := true, phase := .committed } c)
      (asks : (s.withChannel c).Asks ⟨ticket, utterance, s.channel.generation⟩ s') :
      Starts s ticket s'

theorem ask_asks (s : Session) (call : Call) : Asks s call (s.ask call) := by
  have hclosed : ∀ reply, s.channel.isLive call.generation = false →
      (s.interpreter.conclude call.utterance (s.liveness call) reply s.host).host = s.host := by
    intro reply hdead
    rw [liveness, hdead]
    exact (Interpreter.conclude_closed ..).2
  unfold ask
  split
  · exact .ended rfl rfl rfl fun _ => rfl
  · next query _ =>
      dsimp only
      split
      · exact .ended rfl rfl rfl (hclosed _)
      · exact .ended rfl rfl rfl (hclosed _)
      · exact .waits query

theorem entrance_undisturbed (s : Session) (ticket : Ticket) :
    s.channel.Undisturbed (s.entrance ticket) := by
  unfold entrance
  split
  · exact .refl _
  · exact Channel.stopListening_undisturbed _

theorem entrance_interface (s : Session) (ticket : Ticket) :
    (s.entrance ticket).interface = s.channel.interface := by
  unfold entrance
  split
  · rfl
  · exact Channel.stopListening_interface _

theorem entrance_listener (s : Session) (ticket : Ticket) :
    (s.entrance ticket).listener = s.channel.listener := by
  unfold entrance Channel.stopListening
  split
  · rfl
  · split <;> rfl

theorem start_starts (s : Session) (ticket : Ticket) (text : Option String) (origin : String) :
    Starts s ticket (s.start ticket text origin) := by
  have hbegins := Channel.begin_begins (s.entrance ticket) text origin
  have hbusy := (s.entrance_undisturbed ticket).busy_eq
  have hgeneration : (s.entrance ticket).generation = s.channel.generation :=
    congrArg Prod.snd (s.entrance_interface ticket)
  unfold start
  generalize (s.entrance ticket).begin text origin = began at hbegins
  cases hbegins with
  | @refused result c busy told calm =>
      rw [hbusy] at busy
      rw [entrance_listener] at calm
      cases result with
      | ok outcome => exact .refused busy told calm
      | error fault => exact .refused busy told calm
  | @blank result c free told =>
      rw [hbusy] at free
      cases result with
      | ok outcome => exact @Starts.blank s ticket (.ok outcome) c free told
      | error fault => exact @Starts.blank s ticket (.error fault) c free told
  | raised free told rough =>
      rw [entrance_listener] at rough
      exact .raised rough told
  | running free told =>
      rw [hbusy] at free
      rw [hgeneration]
      exact .running free told (ask_asks ..)

variable {ticket : Ticket} {s' : Session}

theorem Asks.interface (h : Asks s call s') : s'.channel.interface = s.channel.interface := by
  cases h with
  | ended channel ready waiting host =>
      rw [← channel]
      exact Channel.finish_interface ..
  | waits query => rfl

theorem Starts.interface (h : Starts s ticket s') :
    s'.channel.interface = s.channel.interface := by
  rw [← s.entrance_interface ticket]
  cases h with
  | refused busy told calm => exact told.interface_eq
  | blank free told => exact told.interface_eq
  | raised rough told => exact told.interface_eq
  | running free told asks => exact asks.interface.trans told.interface_eq

/-- A commit either ends as it begins, or leaves the host alone and its call waiting. -/
theorem Starts.waiting (h : Starts s ticket s') :
    s'.waiting = s.waiting ∨ ∃ call : Call, call.ticket = ticket ∧
      call.generation = s.channel.generation ∧ s'.waiting = s.waiting ++ [call] ∧
      s'.host = s.host := by
  cases h with
  | refused busy told calm => exact Or.inl rfl
  | blank free told => exact Or.inl rfl
  | raised rough told => exact Or.inl rfl
  | running free told asks =>
      cases asks with
      | ended channel ready waiting host => exact Or.inl waiting
      | waits query => exact Or.inr ⟨_, rfl, rfl, rfl, rfl⟩

/-- A commit that begins while the interface is closed leaves the host alone. -/
theorem Starts.host_of_closed (h : Starts s ticket s') (hclosed : s.channel.isOpen = false) :
    s'.host = s.host := by
  cases h with
  | refused busy told calm => rfl
  | blank free told => rfl
  | raised rough told => rfl
  | @running utterance c _ free told asks =>
      have hopen : c.isOpen = false := by
        have hinterface := told.interface_eq.trans (s.entrance_interface ticket)
        exact (congrArg Prod.fst hinterface).trans hclosed
      cases asks with
      | ended channel ready waiting host =>
          exact host (by simp [Channel.isLive, withChannel, hopen])
      | waits query => rfl

theorem resume_interface (s : Session) (call : Call) (reply : Reply) :
    (s.resume call reply).channel.interface = s.channel.interface :=
  Channel.finish_interface ..

/-- A move that runs a job takes it from those that are ready. -/
theorem move_working {job : Job} (h : s.working m = some job) :
    ∃ rest, (job :: rest).Perm s.ready ∧
      s.move m = ({ s with ready := rest } : Session).work job := by
  have runs : ∀ place, s.ready[place]? = some job → ∃ rest, (job :: rest).Perm s.ready ∧
      s.runAt place = ({ s with ready := rest } : Session).work job := by
    intro place hplace
    obtain ⟨hlt, rfl⟩ := List.getElem?_eq_some_iff.mp hplace
    refine ⟨s.ready.eraseIdx place, List.getElem_cons_eraseIdx_perm hlt, ?_⟩
    simp only [runAt, hplace]
  cases m with
  | run place => exact runs place h
  | device => simp [working] at h
  | event event =>
      cases event with
      | run =>
          obtain ⟨rest, hrest, hruns⟩ := runs 0 h
          exact ⟨rest, hrest, by rw [← hruns, ← runNext_eq_runAt]; rfl⟩
      | submit | reply | voice | reopen | close | startListening | stopListening | change =>
          simp [working] at h

theorem working_mem {job : Job} (h : s.working m = some job) : job ∈ s.ready := by
  obtain ⟨rest, hrest, -⟩ := move_working h
  exact hrest.subset List.mem_cons_self

theorem work_ready (s : Session) (job : Job) : (s.work job).ready = s.ready := by
  cases job with
  | commit ticket text origin => exact start_ready ..
  | resume call reply => rfl

/-- The job that is run leaves the queue.  A commit may leave its call waiting, and then it has
changed nothing yet. -/
theorem working_waiting {job : Job} (h : s.working m = some job) :
    ∃ rest, (job :: rest).Perm s.ready ∧ (s.move m).ready = rest ∧
      ((s.move m).waiting = s.waiting ∨
        ∃ call text origin, job = .commit call.ticket text origin ∧
          call.generation = s.channel.generation ∧
          (s.move m).waiting = s.waiting ++ [call] ∧ (s.move m).host = s.host) := by
  obtain ⟨rest, hrest, hmove⟩ := move_working h
  refine ⟨rest, hrest, by rw [hmove, work_ready], ?_⟩
  rw [hmove]
  cases job with
  | resume call reply => exact Or.inl rfl
  | commit ticket text origin =>
      rcases (start_starts { s with ready := rest } ticket text origin).waiting with
        hwaiting | ⟨call, rfl, hgeneration, hwaiting, hhost⟩
      · exact Or.inl hwaiting
      · exact Or.inr ⟨call, text, origin, rfl, hgeneration, hwaiting, hhost⟩

/-! ### The interface -/

theorem work_interface (s : Session) (job : Job) :
    (s.work job).channel.interface = s.channel.interface := by
  cases job with
  | commit ticket text origin => exact (start_starts ..).interface
  | resume call reply => exact resume_interface ..

theorem hear_interface (s : Session) (number : Nat) (event : VoiceEvent) :
    (s.hear number event).2.channel.interface = s.channel.interface := by
  have hinterface := Channel.hear_interface s.channel event
  unfold hear
  split
  · next h =>
      rw [h] at hinterface
      exact hinterface
  · next h =>
      rw [h] at hinterface
      exact hinterface
  · next h =>
      rw [h] at hinterface
      exact hinterface

theorem runAt_interface (s : Session) (place : Nat) :
    (s.runAt place).channel.interface = s.channel.interface := by
  unfold runAt
  split
  · rfl
  · exact work_interface ..

/-- Only opening and closing touch the interface. -/
theorem move_interface (s : Session) (m : Move) :
    (s.move m).channel.interface =
      match m with
      | .event .close => (false, s.channel.generation + 1)
      | .event .reopen => s.channel.reopen.interface
      | _ => s.channel.interface := by
  cases m with
  | run place => exact runAt_interface s place
  | device refusal => rfl
  | event event =>
      cases event with
      | submit | change | reopen => rfl
      | reply reply =>
          simp only [move, step, take]
          split <;> rfl
      | voice number event => exact hear_interface s number event
      | close => exact Channel.close_interface s.channel
      | startListening => exact Channel.startListening_interface s.channel
      | stopListening => exact Channel.stopListening_interface s.channel
      | run =>
          simp only [move, step, runNext_eq_runAt]
          exact runAt_interface s 0

theorem move_generation_le (s : Session) (m : Move) :
    s.channel.generation ≤ (s.move m).channel.generation := by
  have hmove : (s.move m).channel.generation = (s.move m).channel.interface.2 := rfl
  rw [hmove, move_interface]
  split
  · exact Nat.le_succ _
  · rw [Channel.reopen_interface]
    split
    · exact Nat.le_refl _
    · exact Nat.le_succ _
  · exact Nat.le_refl _

/-- A move keeps the interface open to a generation that has begun, unless it closes it; it never
opens it again to that one. -/
theorem move_isLive {generation : Nat} (hbegun : generation ≤ s.channel.generation) (m : Move) :
    (s.move m).channel.isLive generation = true ↔
      s.channel.isLive generation = true ∧ m ≠ .event .close := by
  rw [Channel.isLive_iff, Channel.isLive_iff, move_interface]
  split
  · simp
  · rw [Channel.reopen_interface]
    cases hopen : s.channel.isOpen with
    | true => simp
    | false =>
        have hlater : s.channel.generation + 1 ≠ generation := by omega
        simp [Channel.interface, hopen, hlater]
  · next hclose _ => simp [show m ≠ .event .close from hclose]

end Session

end CommandBar
