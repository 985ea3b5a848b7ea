/-
Closing the interface.

A call belongs to the generation in which its commit began, and closing the
interface ends that generation for good: however often it is opened again, it is
never open to that call any more.  So the reply changes nothing, and the user hears
nothing of it.

A spoken commit does not begin when its transcript is heard but when its job is run,
and its call belongs to the generation of that moment.  Closing the interface in
between ends nothing for it if the interface is open again by then.
-/
import CommandBar.Proofs.History

namespace CommandBar

/-- What the user is told by a note. -/
def Note.told? : Note → Option String
  | .told text => some text
  | .printed _ => none

namespace Session

/-- What the user has been told, in order. -/
def feedback (s : Session) : List String :=
  s.notes.filterMap Note.told? ++ s.channel.told

/-- A commit ends with no outcome, and nobody notices: the oracle is not asked again, the dashboard
and its hooks are left alone, the user is told nothing, and the channel is free. -/
structure Dropped (s : Session) (ticket : Ticket) (s' : Session) : Prop where
  finished : s'.finished = s.finished ++ [(ticket.number, .ok none)]
  queries : s'.queries = s.queries
  host : s'.host = s.host
  feedback : s'.feedback = s.feedback
  lastFeedback : s'.channel.lastFeedback = s.channel.lastFeedback
  busy : s'.channel.busy = false

variable {s : Session} {m : Move} {call : Call} {reply : Reply}

/-! ### A call after the end of its generation -/

theorem feedback_withChannel (s : Session) (printed : List String) (c : Channel) :
    (({ s with notes := s.notes ++ printed.map .printed } : Session).withChannel c).feedback =
      s.notes.filterMap Note.told? ++ c.told := by
  have hprinted : (printed.map Note.printed).filterMap Note.told? = [] := by
    simp [List.filterMap_map, Function.comp_def, Note.told?]
  have htold : (c.told.map Note.told).filterMap Note.told? = c.told := by
    simp [List.filterMap_map, Function.comp_def, Note.told?]
  simp [feedback, withChannel, List.filterMap_append, hprinted, htold]

/-- A call that comes to nothing is dropped. -/
theorem complete_dropped (s : Session) (call : Call) {done : Interpretation}
    (hresult : done.result = .ok none) (hhost : done.host = s.host) :
    Dropped s call.ticket (s.complete call done) := by
  unfold complete
  rw [hresult]
  exact {
    finished := rfl
    queries := rfl
    host := hhost
    feedback := feedback_withChannel s done.printed _
    lastFeedback := rfl
    busy := rfl }

/-- A reply to a call that the interface is closed to is dropped. -/
theorem move_dropped (hworking : s.working m = some (.resume call reply))
    (hclosed : s.channel.isLive call.generation = false) :
    Dropped s call.ticket (s.move m) := by
  obtain ⟨rest, -, hmove⟩ := move_working hworking
  have hconclude := Interpreter.conclude_closed s.interpreter call.utterance reply s.host
  rw [hmove, work, resume, liveness, hclosed]
  have hdropped := complete_dropped { s with ready := rest } call hconclude.1 hconclude.2
  exact ⟨hdropped.finished, hdropped.queries, hdropped.host, hdropped.feedback,
    hdropped.lastFeedback, hdropped.busy⟩

/-- A commit whose call is still outstanding has changed nothing. -/
theorem Fresh.host_of_outstanding (hfresh : s.Fresh) {front rest : List Move}
    (hdistinct : ((front ++ m :: rest).filterMap Move.number?).Nodup)
    (hcall : call ∈ (s.through (front ++ m :: rest)).outstanding) {job : Job}
    (hworking : (s.through front).working m = some job)
    (hnumber : job.ticket.number = call.ticket.number) :
    ((s.through front).move m).host = (s.through front).host := by
  rcases working_numbers hworking with hended | ⟨-, hhost⟩
  · -- a commit that has ended has no call any more
    exfalso
    rw [hnumber] at hended
    have hfront : (front.filterMap Move.number?).Nodup := by
      rw [List.filterMap_append] at hdistinct
      exact hdistinct.of_append_left
    have hnodup := hended.nodup_iff.mpr (hfresh.numbers_nodup hfront)
    have hasked := hfresh.asked_of_mem (hended.subset List.mem_cons_self)
    rw [through_split] at hcall
    rcases mem_numbers_through (number_mem hcall) with hthere | hagain
    · exact (List.nodup_cons.mp hnodup).1 hthere
    · exact not_asked_again hdistinct hasked hagain
  · exact hhost

/-- A call that the interface is closed to is dropped, however many moves later. -/
theorem through_dropped (hdistinct : s.numbers.Nodup) (hcall : call ∈ s.outstanding)
    (hbegun : call.generation ≤ s.channel.generation)
    (hclosed : s.channel.isLive call.generation = false) {moves : List Move}
    (hnew : call.ticket.number ∉ moves.filterMap Move.number?) {job : Job}
    (hworking : (s.through moves).working m = some job)
    (hnumber : job.ticket.number = call.ticket.number) :
    Dropped (s.through moves) call.ticket ((s.through moves).move m) := by
  obtain ⟨reply, rfl⟩ :=
    eq_resume_of_through hdistinct hcall hnew (working_mem hworking) hnumber
  refine move_dropped hworking ?_
  rw [← Bool.not_eq_true, through_isLive hbegun, hclosed]
  simp

/-- **A call that is outstanding when the interface is closed changes nothing and is not heard of
again**, whether the interface is opened again or not.  Up to then its commit has left the host
alone; from then on its reply is dropped, whatever it is; and it is outstanding until then.  A
number names a commit, so none is asked for twice. -/
theorem closed_call_dropped (hfresh : s.Fresh) {before after : List Move}
    (hdistinct : ((before ++ .event .close :: after).filterMap Move.number?).Nodup)
    (hcall : call ∈ (s.through before).outstanding) :
    (∀ front m rest job, before = front ++ m :: rest →
      (s.through front).working m = some job → job.ticket.number = call.ticket.number →
      ((s.through front).move m).host = (s.through front).host) ∧
    (∀ front m rest job, after = front ++ m :: rest →
      (s.through (before ++ .event .close :: front)).working m = some job →
      job.ticket.number = call.ticket.number →
      Dropped (s.through (before ++ .event .close :: front)) call.ticket
        ((s.through (before ++ .event .close :: front)).move m)) ∧
    (call ∈ (s.through (before ++ .event .close :: after)).outstanding ∨
      ∃ front m rest reply, after = front ++ m :: rest ∧
        (s.through (before ++ .event .close :: front)).working m =
          some (.resume call reply)) := by
  have hbefore : (before.filterMap Move.number?).Nodup := by
    rw [List.filterMap_append] at hdistinct
    exact hdistinct.of_append_left
  have hnew : call.ticket.number ∉ after.filterMap Move.number? :=
    not_asked_again hdistinct (hfresh.asked_of_mem (number_mem hcall))
  have hbegun := hfresh.generation_le hcall
  have hclosed : ((s.through before).move (.event .close)).channel.isLive call.generation =
      false := by
    rw [← Bool.not_eq_true, move_isLive hbegun]
    simp
  have hstill : call ∈ ((s.through before).move (.event .close)).outstanding := by
    rcases mem_outstanding_move hcall (.event .close) with hthere | ⟨reply, hworking⟩
    · exact hthere
    · simp [working] at hworking
  refine ⟨?_, ?_, ?_⟩
  · rintro front m rest job rfl hworking hnumber
    exact hfresh.host_of_outstanding hbefore hcall hworking hnumber
  · intro front m rest job hafter hworking hnumber
    have hlater : call.ticket.number ∉ front.filterMap Move.number? := by
      rw [hafter, List.filterMap_append, List.mem_append, not_or] at hnew
      exact hnew.1
    have hnumbers : ((s.through before).move (.event .close)).numbers.Nodup :=
      hfresh.numbers_nodup hbefore
    rw [through_split] at hworking ⊢
    exact through_dropped hnumbers hstill
      (Nat.le_trans hbegun (move_generation_le _ _)) hclosed hlater hworking hnumber
  · rw [through_split]
    refine (mem_outstanding_until hstill after).imp_right ?_
    rintro ⟨front, m, rest, reply, hafter, hworking⟩
    exact ⟨front, m, rest, reply, hafter, by rwa [through_split]⟩

/-- The reply that adds a clock. -/
def clockReply : Reply :=
  .sent (.str "\x7b\"action\":\"addWidget\",\"widgetType\":\"clock\"\x7d")

/-- The interface is opened again before the reply comes. -/
theorem closed_call_dropped_reopened :
    initial.Fresh ∧
      Dropped
        (initial.through [.event (.submit 1 (some "add a clock") "typed"), .run 0, .event .close,
          .event .reopen, .event (.reply clockReply)]) ⟨1, false⟩
        ((initial.through [.event (.submit 1 (some "add a clock") "typed"), .run 0, .event .close,
          .event .reopen, .event (.reply clockReply)]).move (.run 0)) := by
  have hdropped := (@closed_call_dropped initial ⟨⟨1, false⟩, ⟨"add a clock", "typed"⟩, 0⟩
    initial_fresh [.event (.submit 1 (some "add a clock") "typed"), .run 0]
    [.event .reopen, .event (.reply clockReply), .run 0] (by decide) (by decide)).2.1
  exact ⟨initial_fresh,
    hdropped [.event .reopen, .event (.reply clockReply)] (.run 0) [] _ rfl rfl rfl⟩

/-! ### Spoken commits -/

/-- The job that a final transcript makes ready. -/
def spokenJob (n : Nat) (transcript : String) : Job :=
  .commit ⟨n, true⟩ (some transcript) "voice"

/-- A final transcript that is accepted makes its commit ready, and nothing else. -/
theorem hear_accepted {n : Nat} {transcript : String}
    (h : (s.hear n (.final transcript)).1 = .ok (.flag true)) :
    (s.hear n (.final transcript)).2.ready = s.ready ++ [spokenJob n transcript] ∧
      (s.hear n (.final transcript)).2.waiting = s.waiting := by
  unfold hear at h ⊢
  split
  · next heard => simp [heard] at h
  · next heard => simp [heard] at h
  · next transcript' c heard =>
      obtain rfl : transcript = transcript' := by simpa using Channel.hear_final heard
      exact ⟨rfl, rfl⟩

theorem working_ne_close {job : Job} (h : s.working m = some job) : .event .close ≠ m := by
  rintro rfl
  simp [working] at h

/-- The interface is open to a call just if it was open when its commit began and has not been
closed since. -/
theorem isLive_since {first since : List Move} {begin : Move} {commit : Job}
    (hworking : (s.through first).working begin = some commit)
    (hgeneration : call.generation = (s.through first).channel.generation) :
    (s.through (first ++ begin :: since)).channel.isLive call.generation = true ↔
      (s.through first).channel.isOpen = true ∧ .event .close ∉ since := by
  have hopen : (s.through first).channel.isLive call.generation =
      (s.through first).channel.isOpen := by
    simp [Channel.isLive, hgeneration]
  rw [through_append, through_isLive (Nat.le_of_eq hgeneration), hopen, List.mem_cons, not_or]
  simp [working_ne_close hworking]

/-- A commit that is run while the interface is closed leaves the host alone. -/
theorem commit_host_of_closed {ticket : Ticket} {text : Option String} {origin : String}
    (hworking : s.working m = some (.commit ticket text origin))
    (hclosed : s.channel.isOpen = false) : (s.move m).host = s.host := by
  obtain ⟨rest, -, hmove⟩ := move_working hworking
  rw [hmove]
  exact (start_starts { s with ready := rest } ticket text origin).host_of_closed hclosed

/-- When a transcript is accepted, its commit is all there is of that number. -/
theorem Fresh.spoken_alone (hfresh : s.Fresh) {before : List Move} {n : Nat} {transcript : String}
    (hnew : n ∉ before.filterMap Move.number?)
    (haccepted : ((s.through before).step (.voice n (.final transcript))).1 =
      .ok (.flag true)) {t : Session}
    (ht : t = s.through (before ++ [.event (.voice n (.final transcript))])) :
    (∀ job ∈ t.ready, job.ticket.number = n → job = spokenJob n transcript) ∧
      ∀ call ∈ t.outstanding, call.ticket.number ≠ n := by
  have hfirst : n ∉ (s.through before).numbers := fun hmem => hnew (hfresh.asked_of_mem hmem)
  obtain ⟨hready, hwaiting⟩ := hear_accepted haccepted
  rw [through_snoc] at ht
  have hjobs : ∀ job ∈ t.ready, job.ticket.number = n → job = spokenJob n transcript := by
    intro job hjob hnumber
    have hcases : job ∈ (s.through before).ready ++ [spokenJob n transcript] := by
      rw [← hready]
      rwa [ht] at hjob
    rw [List.mem_append, List.mem_singleton] at hcases
    refine hcases.resolve_left fun hthere => hfirst ?_
    rw [← hnumber]
    exact job_number_mem hthere
  refine ⟨hjobs, ?_⟩
  rintro call hcall rfl
  rcases mem_outstanding.mp hcall with hthere | ⟨reply, hreply⟩
  · have hbefore : call ∈ (s.through before).waiting := by
      rw [← hwaiting]
      rwa [ht] at hthere
    exact hfirst (number_mem (mem_outstanding.mpr (Or.inl hbefore)))
  · cases hjobs _ hreply rfl

/-- **A spoken command belongs to the generation in which its commit is run, not to the one in
which it was spoken.**  Each job of an accepted transcript stands at or behind the move that began
its commit.  If the interface was closed at that move or has been closed since, the job leaves the
host alone; a reply counts just if neither is so. -/
theorem spoken_live_from_beginning (hfresh : s.Fresh) {before after : List Move} {n : Nat}
    {transcript : String}
    (hdistinct : ((before ++ .event (.voice n (.final transcript)) :: after).filterMap
      Move.number?).Nodup)
    (haccepted : ((s.through before).step (.voice n (.final transcript))).1 = .ok (.flag true))
    {t : Session} (ht : t = s.through (before ++ [.event (.voice n (.final transcript))])) :
    ∀ front m rest job, after = front ++ m :: rest →
      (t.through front).working m = some job → job.ticket.number = n →
      ∃ first begin since, front ++ [m] = first ++ begin :: since ∧
        (t.through first).working begin = some (spokenJob n transcript) ∧
        ((t.through first).channel.isOpen = false ∨ .event .close ∈ since →
          ((t.through front).move m).host = (t.through front).host) ∧
        ∀ call reply, job = .resume call reply →
          ((t.through front).channel.isLive call.generation = true ↔
            (t.through first).channel.isOpen = true ∧ .event .close ∉ since) := by
  have hunasked : n ∉ before.filterMap Move.number? ++ after.filterMap Move.number? := by
    have hnumber : (Move.event (.voice n (.final transcript))).number? = some n := rfl
    rw [List.filterMap_append, List.filterMap_cons_some hnumber] at hdistinct
    exact (List.nodup_cons.mp (List.nodup_middle.mp hdistinct)).1
  rw [List.mem_append, not_or] at hunasked
  obtain ⟨hjobs, hcalls⟩ := hfresh.spoken_alone hunasked.1 haccepted ht
  intro front m rest job hsplit hworking hnumber
  have hnew : n ∉ front.filterMap Move.number? := by
    rw [hsplit, List.filterMap_append, List.mem_append, not_or] at hunasked
    exact hunasked.2.1
  rw [← hnumber] at hnew
  cases descends hnew (working_mem hworking) with
  | commit ready =>
      -- the commit begins with this move
      have hcommit := hjobs _ ready hnumber
      refine ⟨front, m, [], rfl, by rw [hworking, hcommit], fun hclosed => ?_, ?_⟩
      · exact commit_host_of_closed hworking (hclosed.resolve_right List.not_mem_nil)
      · intro call reply hresume
        cases hresume
  | @resume call reply there => exact absurd hnumber (hcalls call there)
  | @begun call reply first since begin text origin split ready hbegin generation =>
      subst split
      rw [hjobs _ ready hnumber] at hbegin
      have hlive : (t.through (first ++ begin :: since)).channel.isLive call.generation = true ↔
          (t.through first).channel.isOpen = true ∧ .event .close ∉ since ++ [m] := by
        rw [isLive_since hbegin generation, List.mem_append, List.mem_singleton, not_or]
        simp [working_ne_close hworking]
      refine ⟨first, begin, since ++ [m], by simp, hbegin, fun hclosed => ?_, ?_⟩
      · refine (move_dropped hworking ?_).host
        rw [← Bool.not_eq_true, hlive]
        rintro ⟨hopen, hkept⟩
        rcases hclosed with hshut | hclose
        · rw [hopen] at hshut
          cases hshut
        · exact hkept hclose
      · intro call' reply' hsame
        cases hsame
        exact hlive

/-- The session in which a clock has just been asked for by voice. -/
def spokenClock : Session :=
  initial.through [.event .startListening, .event (.voice 1 (.final "add a clock"))]

/-- The interface is closed and opened again while the call waits. -/
theorem spoken_live_from_beginning_waiting :
    initial.Fresh ∧
      ∃ first begin since,
        [.run 0, .event .close, .event .reopen, .event (.reply clockReply), .run 0] =
          first ++ begin :: since ∧
        (spokenClock.through first).working begin = some (spokenJob 1 "add a clock") ∧
        ((spokenClock.through first).channel.isOpen = false ∨ .event .close ∈ since →
          (spokenClock.through [.run 0, .event .close, .event .reopen,
            .event (.reply clockReply), .run 0]).host =
          (spokenClock.through [.run 0, .event .close, .event .reopen,
            .event (.reply clockReply)]).host) := by
  have hlive := @spoken_live_from_beginning initial initial_fresh [.event .startListening]
    [.run 0, .event .close, .event .reopen, .event (.reply clockReply), .run 0] 1 "add a clock"
    (by decide) (by decide) spokenClock rfl
    [.run 0, .event .close, .event .reopen, .event (.reply clockReply)] (.run 0) [] _ rfl rfl rfl
  obtain ⟨first, begin, since, hsplit, hbegin, hclosed, -⟩ := hlive
  exact ⟨initial_fresh, first, begin, since, hsplit, hbegin, hclosed⟩

/-- If the interface is closed and opened again before the commit is run, the transcript still
adds its widget. -/
theorem spoken_revived :
    ((initial.through [.event .startListening]).step (.voice 1 (.final "add a clock"))).1 =
        .ok (.flag true) ∧
      (spokenClock.through [.event .close, .event .reopen, .run 0, .event (.reply clockReply),
        .run 0]).host.calls = [.add (some "clock") none none] := by
  decide +kernel

end Session

end CommandBar
