/-
Sessions.

A session runs a channel against an interpreter while time passes.  Commits that
have been asked for wait in a queue until they are run, one after another in the
order in which they became ready.  A running commit goes on until it ends or
needs the oracle.  Then it takes the first reply that is already there, or waits;
the reply that ends its waiting puts it back at the end of the queue.

What the user is told and what is printed are notes, in the order in which they
appear.
-/
import CommandBar.Channel.Basic
import CommandBar.Interpreter

namespace CommandBar

/-- A commit: its number, and whether it was spoken. -/
structure Ticket where
  number : Nat
  spoken : Bool := false
deriving Repr, DecidableEq

/-- A commit whose query has been made. -/
structure Call where
  ticket : Ticket
  utterance : Utterance
  generation : Nat
deriving Repr, DecidableEq

/-- What is ready to run. -/
inductive Job
  /-- A commit that has not begun. -/
  | commit (ticket : Ticket) (text : Option String) (origin : String)
  /-- A call that has its reply. -/
  | resume (call : Call) (reply : Reply)
deriving DecidableEq

/-- The commit that a job belongs to. -/
def Job.ticket : Job → Ticket
  | .commit ticket _ _ => ticket
  | .resume call _ => call.ticket

/-- Something that appears. -/
inductive Note
  /-- What the user is told. -/
  | told (text : String)
  /-- A line that is printed. -/
  | printed (line : String)
deriving Repr, DecidableEq

/-- A channel and an interpreter at work. -/
structure Session where
  interpreter : Interpreter := .standard
  host : Host
  channel : Channel := {}
  /-- The time, as the log writes it. -/
  time : String
  /-- The reply of an oracle that never lets a call wait, when no other reply is there. -/
  standing : Option Reply := none
  /-- The replies that no call has taken yet. -/
  replies : List Reply := []
  ready : List Job := []
  waiting : List Call := []
  /-- The queries that were made, in order. -/
  queries : List Query := []
  /-- The commits that have ended, in order, and how. -/
  finished : List (Nat × Except Fault (Option Outcome)) := []
  notes : List Note := []
  log : String := ""

namespace Session

/-- The spoken commits that have not ended. -/
def spoken (s : Session) : List Ticket :=
  (s.ready.map Job.ticket ++ s.waiting.map Call.ticket).filter Ticket.spoken

/-- Goes on with a channel; what it has told becomes notes. -/
def withChannel (s : Session) (c : Channel) : Session :=
  { s with
    channel := { c with told := [] }
    notes := s.notes ++ c.told.map Note.told }

/-- Ends a commit. -/
def finish (s : Session) (ticket : Ticket) (result : Except Fault (Option Outcome)) : Session :=
  { s with finished := s.finished ++ [(ticket.number, result)] }

/-! ### Running jobs -/

/-- Ends a call with what the interpreter made of it. -/
def complete (s : Session) (call : Call) (done : Interpretation) : Session :=
  let (result, channel) := s.channel.finish call.generation done.result
  let noted := { s with
    host := done.host
    notes := s.notes ++ done.printed.map Note.printed
    log := s.log ++ done.entry s.time call.utterance }
  (noted.withChannel channel).finish call.ticket result

/-- The answers to whether the interface is open to a call. -/
def liveness (s : Session) (call : Call) : Liveness :=
  [s.channel.isLive call.generation]

/-- Goes on with a call that has its reply. -/
def resume (s : Session) (call : Call) (reply : Reply) : Session :=
  s.complete call (s.interpreter.conclude call.utterance (s.liveness call) reply s.host)

/-- Makes the query of a call. -/
def ask (s : Session) (call : Call) : Session :=
  match s.interpreter.query? call.utterance s.host.widgets with
  | .error e => s.complete call (Interpreter.report e (s.liveness call) s.host)
  | .ok query =>
    let asked := { s with queries := s.queries ++ [query] }
    match s.replies, s.standing with
    | reply :: rest, _ => { asked with replies := rest }.resume call reply
    | [], some reply => asked.resume call reply
    | [], none => { asked with waiting := s.waiting ++ [call] }

/-- The channel as a commit finds it.  A typed one takes the place of what the microphone was
hearing. -/
def entrance (s : Session) (ticket : Ticket) : Channel :=
  if ticket.spoken then s.channel else s.channel.stopListening

/-- Begins a commit. -/
def start (s : Session) (ticket : Ticket) (text : Option String) (origin : String) : Session :=
  match (s.entrance ticket).begin text origin with
  | (.error fault, c) => (s.withChannel c).finish ticket (.error fault)
  | (.ok (.refused outcome), c) => (s.withChannel c).finish ticket (.ok (some outcome))
  | (.ok (.running utterance generation), c) =>
    (s.withChannel c).ask ⟨ticket, utterance, generation⟩

/-- Runs the first job that is ready. -/
def runNext (s : Session) : Session :=
  match s.ready with
  | [] => s
  | .commit ticket text origin :: rest => { s with ready := rest }.start ticket text origin
  | .resume call reply :: rest => { s with ready := rest }.resume call reply

/-- Runs everything that is ready, each job once. -/
def settle (s : Session) : Session :=
  s.ready.foldl (fun s _ => s.runNext) s

/-! ### Events -/

/-- What can happen to a session. -/
inductive Event
  /-- Text is committed. -/
  | submit (number : Nat) (text : Option String) (origin : String)
  /-- The oracle replies. -/
  | reply (reply : Reply)
  /-- The microphone reports something, which may be a commit. -/
  | voice (number : Nat) (event : VoiceEvent)
  | reopen
  | close
  | startListening
  | stopListening
  /-- The dashboard is changed by someone else. -/
  | change (change : Change)
  /-- The first job that is ready is run. -/
  | run

/-- What an event gives back. -/
inductive Returned
  | nothing
  | flag (b : Bool)
  | id (id : Option String)
deriving Repr, DecidableEq

/-- Takes a reply: the first waiting call goes on with it, or it is kept for the next one. -/
def take (s : Session) (reply : Reply) : Session :=
  match s.waiting with
  | call :: rest => { s with waiting := rest, ready := s.ready ++ [.resume call reply] }
  | [] => { s with replies := s.replies ++ [reply] }

/-- Takes a report of the microphone.  A final transcript is committed, but not at once. -/
def hear (s : Session) (number : Nat) (event : VoiceEvent) : Except Fault Returned × Session :=
  match s.channel.hear event with
  | (.error fault, c) => (.error fault, s.withChannel c)
  | (.ok none, c) => (.ok (.flag false), s.withChannel c)
  | (.ok (some transcript), c) =>
    let s := s.withChannel c
    let job := Job.commit ⟨number, true⟩ (some transcript) "voice"
    (.ok (.flag true), { s with ready := s.ready ++ [job] })

/-- What happens at an event. -/
def step (s : Session) : Event → Except Fault Returned × Session
  | .submit number text origin =>
    (.ok .nothing, { s with ready := s.ready ++ [.commit ⟨number, false⟩ text origin] })
  | .reply reply => (.ok .nothing, s.take reply)
  | .voice number event => s.hear number event
  | .reopen => (.ok .nothing, s.withChannel s.channel.reopen)
  | .close => (.ok .nothing, s.withChannel s.channel.close)
  | .startListening =>
    let (started, c) := s.channel.startListening
    (started.map .flag, s.withChannel c)
  | .stopListening => (.ok .nothing, s.withChannel s.channel.stopListening)
  | .change change =>
    let (id, host) := s.host.perform change
    (id.map .id, { s with host })
  | .run => (.ok .nothing, s.runNext)

/-- The session after some events. -/
def after (s : Session) (events : List Event) : Session :=
  events.foldl (fun s event => (s.step event).2) s

/-- Commits a typed text and runs it to its end. -/
def submit (s : Session) (text : String) : Session :=
  (s.step (.submit 0 (some text) "typed")).2.settle

/-! ### Running everything that is ready

A job never makes another one ready, so running as many jobs as were ready empties the queue.
-/

@[simp] theorem withChannel_ready (s : Session) (c : Channel) :
    (s.withChannel c).ready = s.ready := rfl

@[simp] theorem finish_ready (s : Session) (ticket : Ticket)
    (result : Except Fault (Option Outcome)) : (s.finish ticket result).ready = s.ready := rfl

@[simp] theorem complete_ready (s : Session) (call : Call) (done : Interpretation) :
    (s.complete call done).ready = s.ready := rfl

@[simp] theorem resume_ready (s : Session) (call : Call) (reply : Reply) :
    (s.resume call reply).ready = s.ready := rfl

@[simp] theorem ask_ready (s : Session) (call : Call) : (s.ask call).ready = s.ready := by
  unfold ask
  split
  · simp
  · split <;> simp

@[simp] theorem start_ready (s : Session) (ticket : Ticket) (text : Option String)
    (origin : String) : (s.start ticket text origin).ready = s.ready := by
  unfold start
  split <;> simp

/-- Running a job takes it from the queue and makes no other job ready. -/
theorem runNext_ready (s : Session) : s.runNext.ready = s.ready.tail := by
  unfold runNext
  split
  · next h => simp [h]
  · next h => simp [h]
  · next h => simp [h]

/-- After everything has run, nothing is ready. -/
theorem settle_ready (s : Session) : s.settle.ready = [] := by
  have runs : ∀ (jobs : List Job) (s : Session), s.ready.length = jobs.length →
      (jobs.foldl (fun s _ => s.runNext) s).ready = [] := by
    intro jobs
    induction jobs with
    | nil => intro s h; simpa using h
    | cons job rest ih =>
      intro s h
      refine ih s.runNext ?_
      rw [runNext_ready, List.length_tail, h]
      simp
  exact runs s.ready s rfl

end Session

end CommandBar
