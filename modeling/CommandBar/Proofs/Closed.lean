/-
What happens while the interface is closed.

Closing stops the microphone, and no capture begins by itself, so a channel that is
closed hears only if it has been told to since (`through_hears_closed`).

A commit does not look at whether the interface is open when it begins.  It is made
like any other, but it belongs to a generation that is over already: its call is
closed from the start and stays so, and whatever the oracle replies is dropped.  The
user is told that the commit begins and then nothing more.
-/
import CommandBar.Proofs.Closing
import CommandBar.Proofs.Microphone

namespace CommandBar

namespace Channel

variable {c c' : Channel}

/-! ### What a commit tells -/

theorem tell_ok {α : Type} {text : String} {value given : α}
    (h : c.tell text value = (.ok given, c')) : given = value := by
  obtain ⟨c'', -, htell | ⟨-, fault, htell⟩⟩ := tell_cases c text value
  · rw [htell] at h
    cases h
    rfl
  · rw [htell] at h
    cases h

theorem tell_tells {α : Type} (c : Channel) (text : String) (value : α) :
    ∃ told, (c.tell text value).2.told = c.told ++ told ∧ told.length ≤ 1 := by
  unfold tell
  split
  · exact ⟨[], by simp⟩
  · split
    · exact ⟨[text], by simp⟩
    · split
      · exact ⟨[text], by simp⟩
      · exact ⟨[text], by simp⟩

/-- A commit tells at most one thing as it begins. -/
theorem begin_tells (c : Channel) (text : Option String) (origin : String) :
    ∃ told, (c.begin text origin).2.told = c.told ++ told ∧ told.length ≤ 1 := by
  unfold begin
  split
  · exact tell_tells ..
  · dsimp only
    split
    · exact tell_tells ..
    · exact tell_tells ..

/-- A commit that is refused has failed at its input. -/
theorem begin_refused {text : Option String} {origin : String} {outcome : Outcome}
    (h : c.begin text origin = (.ok (.refused outcome), c')) :
    ∃ feedback, outcome = .failed .input feedback := by
  unfold begin at h
  split at h
  · exact ⟨_, by simpa using tell_ok h⟩
  · dsimp only at h
    split at h
    · exact ⟨_, by simpa using tell_ok h⟩
    · simpa using tell_ok h

theorem begin_interface (c : Channel) (text : Option String) (origin : String) :
    (c.begin text origin).2.interface = c.interface := by
  have hbegins := begin_begins c text origin
  generalize c.begin text origin = began at hbegins ⊢
  cases hbegins with
  | refused busy told calm => exact told.interface_eq
  | blank free told => exact told.interface_eq
  | raised free told rough => exact told.interface_eq
  | running free told => exact told.interface_eq

theorem stopListening_told (c : Channel) : c.stopListening.told = c.told := by
  unfold stopListening
  split <;> rfl

end Channel

namespace Session

variable {s : Session} {m : Move} {call : Call} {ticket : Ticket}

/-! ### Listening -/

/-- The microphone was started while the interface was closed, and the interface has been neither
opened nor closed since. -/
def StartedClosed (s : Session) (moves : List Move) : Prop :=
  ∃ front since, moves = front ++ .event .startListening :: since ∧
    (s.through front).channel.isOpen = false ∧
    ((s.through front).move (.event .startListening)).channel.starts =
      (s.through front).channel.starts + 1 ∧
    .event .reopen ∉ since ∧ .event .close ∉ since

theorem move_isOpen (s : Session) (m : Move) :
    (s.move m).channel.isOpen = (s.move m).channel.interface.1 := rfl

/-- After closing, the channel does not hear. -/
theorem close_deaf (s : Session) : (s.move (.event .close)).hears = false :=
  Channel.stopListening_deaf _

theorem reopen_isOpen (s : Session) : (s.move (.event .reopen)).channel.isOpen = true := by
  rw [move_isOpen, move_interface]
  simp only [Channel.reopen_interface]
  split
  · assumption
  · rfl

theorem isOpen_of_move (hclosed : (s.move m).channel.isOpen = false) (h : m ≠ .event .close) :
    s.channel.isOpen = false ∧ m ≠ .event .reopen := by
  have hreopen : m ≠ .event .reopen := by
    rintro rfl
    rw [reopen_isOpen] at hclosed
    cases hclosed
  refine ⟨?_, hreopen⟩
  rw [move_isOpen, move_interface] at hclosed
  split at hclosed
  · exact absurd rfl h
  · exact absurd rfl hreopen
  · exact hclosed

theorem phase_of_deaf (h : s.hears = false) :
    s.channel.phase = .idle ∨ s.channel.phase = .committed := by
  unfold hears at h
  cases hphase : s.channel.phase with
  | idle => exact Or.inl rfl
  | committed => exact Or.inr rfl
  | listening => simp [hphase, Phase.isCapturing] at h
  | transcribing => simp [hphase, Phase.isCapturing] at h

/-- Whoever hears while the interface is closed has started the microphone while it was. -/
theorem Guarded.through_hears_closed (h : s.Guarded) (hdeaf : s.hears = false)
    {moves : List Move} (hclosed : (s.through moves).channel.isOpen = false)
    (hhears : (s.through moves).hears = true) : s.StartedClosed moves := by
  induction moves using List.reverseRecOn with
  | nil => exact absurd (hdeaf.symm.trans hhears) Bool.false_ne_true
  | append_singleton front m ih =>
      rw [through_snoc] at hclosed hhears
      have hclose : m ≠ .event .close := by
        rintro rfl
        rw [close_deaf] at hhears
        cases hhears
      obtain ⟨hbefore, hreopen⟩ := isOpen_of_move hclosed hclose
      rcases heard_of_move (h.through front).deaf hhears with hheard | ⟨rfl, hstarts⟩
      · obtain ⟨first, since, rfl, hthen, hstarted, hunopened, hunclosed⟩ := ih hbefore hheard
        refine ⟨first, since ++ [m], by simp, hthen, hstarted, ?_, ?_⟩
        · simp [hunopened, hreopen.symm]
        · simp [hunclosed, hclose.symm]
      · exact ⟨front, [], rfl, hbefore, hstarts, by simp, by simp⟩

/-! ### Commits -/

/-- A commit begins and nothing comes of it yet: the dashboard and its hooks are left alone, the
oracle is asked once at most, the user is told one thing at most, and if the commit ends with an
outcome it was turned away. -/
structure Fruitless (s : Session) (ticket : Ticket) (s' : Session) : Prop where
  host : s'.host = s.host
  queries : ∃ asked, s'.queries = s.queries ++ asked ∧ asked.length ≤ 1
  feedback : ∃ told, s'.feedback = s.feedback ++ told ∧ told.length ≤ 1
  finished : s'.finished = s.finished ∨ ∃ result,
    s'.finished = s.finished ++ [(ticket.number, result)] ∧
      ∀ outcome, result = .ok (some outcome) → ∃ feedback, outcome = .failed .input feedback

theorem entrance_told (s : Session) (ticket : Ticket) :
    (s.entrance ticket).told = s.channel.told := by
  unfold entrance
  split
  · rfl
  · exact Channel.stopListening_told _

theorem resume_dropped (hclosed : s.channel.isLive call.generation = false) (reply : Reply) :
    Dropped s call.ticket (s.resume call reply) := by
  have hconclude := Interpreter.conclude_closed s.interpreter call.utterance reply s.host
  rw [resume, liveness, hclosed]
  exact complete_dropped s call hconclude.1 hconclude.2

/-- A call that asks and is dropped at once has been asked and no more. -/
theorem Dropped.fruitless {t s' : Session} {asked : List Query} (h : Dropped t ticket s')
    (hqueries : t.queries = s.queries ++ asked) (hone : asked.length ≤ 1)
    (hhost : t.host = s.host) (hfeedback : t.feedback = s.feedback)
    (hfinished : t.finished = s.finished) :
    Fruitless s ticket s' ∧ s'.feedback = s.feedback := by
  have hasked : s'.queries = s.queries ++ asked := h.queries.trans hqueries
  have hsame : s'.feedback = s.feedback := h.feedback.trans hfeedback
  refine ⟨⟨h.host.trans hhost, ⟨asked, hasked, hone⟩, ⟨[], by simp [hsame], by simp⟩, ?_⟩, hsame⟩
  exact Or.inr ⟨.ok none, by rw [h.finished, hfinished], by simp⟩

/-- A call that the interface is closed to comes to nothing, and the user hears nothing of it. -/
theorem ask_fruitless (hclosed : s.channel.isLive call.generation = false) :
    Fruitless s call.ticket (s.ask call) ∧ (s.ask call).feedback = s.feedback := by
  unfold ask
  split
  · next e _ =>
      have hresult : (Interpreter.report e (s.liveness call) s.host).result = .ok none := by
        rw [liveness, hclosed]
        rfl
      exact (complete_dropped s call hresult rfl).fruitless (List.append_nil _).symm (by simp)
        rfl rfl rfl
  · next query _ =>
      have hone : [query].length ≤ 1 := Nat.le_refl 1
      have hresume : ∀ (replies : List Reply) (reply : Reply),
          Dropped { s with queries := s.queries ++ [query], replies } call.ticket
            (Session.resume { s with queries := s.queries ++ [query], replies } call reply) :=
        fun replies reply => resume_dropped (by exact hclosed) reply
      dsimp only
      split
      · exact (hresume _ _).fruitless rfl hone rfl rfl rfl
      · exact (hresume _ _).fruitless rfl hone rfl rfl rfl
      · exact ⟨⟨rfl, ⟨[query], rfl, by simp⟩, ⟨[], by simp [feedback], by simp⟩, Or.inl rfl⟩, rfl⟩

/-- What the channel has told as the commit began is all that the user hears. -/
theorem Fruitless.of_withChannel {s' : Session} {c : Channel}
    (h : Fruitless (s.withChannel c) ticket s' ∧ s'.feedback = (s.withChannel c).feedback)
    (htold : ∃ told, c.told = s.channel.told ++ told ∧ told.length ≤ 1) :
    Fruitless s ticket s' := by
  obtain ⟨⟨hhost, hqueries, -, hfinished⟩, hsame⟩ := h
  obtain ⟨told, htold, hone⟩ := htold
  have hfeedback : (s.withChannel c).feedback = s.notes.filterMap Note.told? ++ c.told := by
    simpa using feedback_withChannel s [] c
  refine ⟨hhost, hqueries, ⟨told, ?_, hone⟩, hfinished⟩
  rw [hsame, hfeedback, htold, ← List.append_assoc]
  rfl

theorem finish_fruitless (s : Session) (ticket : Ticket) {result : Except Fault (Option Outcome)}
    (h : ∀ outcome, result = .ok (some outcome) → ∃ feedback, outcome = .failed .input feedback) :
    Fruitless s ticket (s.finish ticket result) ∧ (s.finish ticket result).feedback = s.feedback :=
  ⟨⟨rfl, ⟨[], by simp [finish], by simp⟩, ⟨[], by simp [feedback, finish], by simp⟩,
    Or.inr ⟨result, rfl, h⟩⟩, rfl⟩

theorem start_fruitless (hclosed : s.channel.isOpen = false) (ticket : Ticket)
    (text : Option String) (origin : String) :
    Fruitless s ticket (s.start ticket text origin) := by
  have htold := Channel.begin_tells (s.entrance ticket) text origin
  have hinterface := Channel.begin_interface (s.entrance ticket) text origin
  rw [entrance_told] at htold
  rw [entrance_interface] at hinterface
  unfold start
  split
  · next fault c hbegin =>
      rw [hbegin] at htold
      exact .of_withChannel (finish_fruitless _ ticket (by simp)) htold
  · next outcome c hbegin =>
      obtain ⟨feedback, rfl⟩ := Channel.begin_refused hbegin
      rw [hbegin] at htold
      exact .of_withChannel (finish_fruitless _ ticket (by simp)) htold
  · next utterance generation c hbegin =>
      rw [hbegin] at htold hinterface
      have hopen : c.isOpen = false := (congrArg Prod.fst hinterface).trans hclosed
      have hlive : (s.withChannel c).channel.isLive generation = false := by
        simp [withChannel, Channel.isLive, hopen]
      exact .of_withChannel (@ask_fruitless _ ⟨ticket, utterance, generation⟩ hlive) htold

theorem working_fruitless (hclosed : s.channel.isOpen = false) {text : Option String}
    {origin : String} (hworking : s.working m = some (.commit ticket text origin)) :
    Fruitless s ticket (s.move m) := by
  obtain ⟨rest, -, hmove⟩ := move_working hworking
  have hstart := start_fruitless (s := { s with ready := rest }) hclosed ticket text origin
  rw [hmove]
  exact ⟨hstart.host, hstart.queries, hstart.feedback, hstart.finished⟩

/-- The number of a job that is run is not in the queue any more. -/
theorem number_ne_of_working (hdistinct : s.numbers.Nodup) {job other : Job}
    (hworking : s.working m = some job) (hother : other ∈ (s.move m).ready) :
    other.ticket.number ≠ job.ticket.number := by
  obtain ⟨rest, hrest, hready, -⟩ := working_waiting hworking
  have hnumbers := (hrest.map fun job : Job => job.ticket.number).nodup_iff.mpr
    hdistinct.of_append_left
  rw [hready] at hother
  intro hsame
  exact (List.nodup_cons.mp hnumbers).1 (List.mem_map.mpr ⟨other, hother, hsame⟩)

/-- A job of a commit that has begun goes on with its call, which belongs to the generation of that
moment. -/
theorem resume_of_begun (hdistinct : s.numbers.Nodup) {text : Option String} {origin : String}
    (hworking : s.working m = some (.commit ticket text origin)) {moves : List Move}
    (hnew : ticket.number ∉ moves.filterMap Move.number?) {job : Job}
    (hjob : job ∈ ((s.move m).through moves).ready) (hnumber : job.ticket.number = ticket.number) :
    ∃ call reply, job = .resume call reply ∧ call.ticket = ticket ∧
      call.generation = s.channel.generation := by
  rw [← hnumber] at hnew
  cases descends hnew hjob with
  | commit ready => exact (number_ne_of_working hdistinct hworking ready hnumber).elim
  | begun split ready hbegin generation =>
      exact (number_ne_of_working hdistinct hworking ready hnumber).elim
  | @resume call reply there =>
      rcases mem_outstanding_of_move there with hbefore | ⟨text, origin, hcommit, hgeneration⟩
      · -- a call that was outstanding before would be a second one of that number
        obtain ⟨reply, hsame⟩ :=
          eq_resume_of_number hdistinct hbefore (working_mem hworking) hnumber.symm
        cases hsame
      · rw [hworking] at hcommit
        cases hcommit
        exact ⟨call, reply, rfl, rfl, hgeneration⟩

/-- A commit that begins while the interface is closed is dropped when it is run again. -/
theorem begun_closed_dropped (hdistinct : s.numbers.Nodup) {begin : Move} {text : Option String}
    {origin : String} (hbegin : s.working begin = some (.commit ticket text origin))
    (hclosed : s.channel.isOpen = false) {moves : List Move}
    (hnew : ticket.number ∉ moves.filterMap Move.number?) {job : Job}
    (hworking : ((s.move begin).through moves).working m = some job)
    (hnumber : job.ticket.number = ticket.number) :
    Dropped ((s.move begin).through moves) ticket (((s.move begin).through moves).move m) := by
  obtain ⟨call, reply, rfl, rfl, hgeneration⟩ :=
    resume_of_begun hdistinct hbegin hnew (working_mem hworking) hnumber
  refine move_dropped hworking ?_
  have hlive := @isLive_since s call [] moves begin _ hbegin hgeneration
  rw [← Bool.not_eq_true]
  intro hopen
  exact Bool.false_ne_true (hclosed.symm.trans (hlive.mp hopen).1)

/-- **What a closed interface still does.**  It listens only to a microphone that was started while
it was closed.  A commit that begins while it is closed is made like any other, but it asks the
oracle once at most and comes to nothing, whatever the reply is and whether the interface is opened
again or not. -/
theorem closed_fruitless (hfresh : s.Fresh) {moves : List Move}
    (hdistinct : (moves.filterMap Move.number?).Nodup) :
    ((s.through moves).channel.isOpen = false → ¬ s.StartedClosed moves →
      (s.through moves).channel.phase = .idle ∨ (s.through moves).channel.phase = .committed) ∧
    ∀ front begin since ticket text origin, moves = front ++ begin :: since →
      (s.through front).working begin = some (.commit ticket text origin) →
      (s.through front).channel.isOpen = false →
      Fruitless (s.through front) ticket ((s.through front).move begin) ∧
      ∀ between m rest job, since = between ++ m :: rest →
        (s.through (front ++ begin :: between)).working m = some job →
        job.ticket.number = ticket.number →
        Dropped (s.through (front ++ begin :: between)) ticket
          ((s.through (front ++ begin :: between)).move m) := by
  refine ⟨?_, ?_⟩
  · intro hclosed hunstarted
    have hdeaf : s.hears = false := by rw [hears, hfresh.phase]; rfl
    refine phase_of_deaf ?_
    rw [← Bool.not_eq_true]
    exact fun hhears =>
      hunstarted (hfresh.guarded.through_hears_closed hdeaf hclosed hhears)
  · rintro front begin since ticket text origin rfl hbegin hclosed
    have hfront : (front.filterMap Move.number?).Nodup := by
      rw [List.filterMap_append] at hdistinct
      exact hdistinct.of_append_left
    have hnew : ticket.number ∉ since.filterMap Move.number? :=
      not_asked_again hdistinct (hfresh.asked_of_mem (job_number_mem (working_mem hbegin)))
    refine ⟨working_fruitless hclosed hbegin, ?_⟩
    rintro between m rest job rfl hworking hnumber
    rw [List.filterMap_append, List.mem_append, not_or] at hnew
    rw [through_split] at hworking ⊢
    exact begun_closed_dropped (hfresh.numbers_nodup hfront) hbegin hclosed hnew.1 hworking hnumber

/-- The microphone is started and a clock is asked for while the interface is closed.  The reply
comes when it is open again. -/
def clockWhileClosed : List Move :=
  [.event .close, .event .startListening, .event (.submit 1 (some "add a clock") "typed"),
    .event .run, .event .reopen, .event (.reply clockReply), .event .run]

theorem closed_fruitless_clock :
    initial.Fresh ∧ (clockWhileClosed.filterMap Move.number?).Nodup ∧
      Fruitless (initial.through (clockWhileClosed.take 3)) ⟨1, false⟩
        (initial.through (clockWhileClosed.take 4)) ∧
      Dropped (initial.through (clockWhileClosed.take 6)) ⟨1, false⟩
        (initial.through clockWhileClosed) := by
  have hdistinct : (clockWhileClosed.filterMap Move.number?).Nodup := by decide
  have hcommit := (closed_fruitless initial_fresh hdistinct).2 (clockWhileClosed.take 3)
    (.event .run) [.event .reopen, .event (.reply clockReply), .event .run] ⟨1, false⟩
    (some "add a clock") "typed" rfl rfl (by decide +kernel)
  exact ⟨initial_fresh, hdistinct, hcommit.1,
    hcommit.2 [.event .reopen, .event (.reply clockReply)] (.event .run) [] _ rfl rfl rfl⟩

/-- The microphone is started and the oracle is asked all the same. -/
theorem closed_listens_asks :
    ((initial.through (clockWhileClosed.take 2)).channel.isOpen = false ∧
      (initial.through (clockWhileClosed.take 2)).channel.phase = .listening) ∧
    (initial.through (clockWhileClosed.take 3)).channel.isOpen = false ∧
      (initial.through (clockWhileClosed.take 3)).queries.length = 0 ∧
      (initial.through (clockWhileClosed.take 4)).queries.length = 1 := by
  decide +kernel

end Session

end CommandBar
