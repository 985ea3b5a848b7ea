/-
What becomes of the transcripts of one capture.

A final transcript makes a commit ready and leaves the channel listening, so a
capture that reports another one makes another commit ready.  When the first of them
is run, the channel listens no more, and what is ready then is all that can come of
the capture.

If that first utterance has to wait for its reply, the other commits find the channel
busy.  Jobs are run in the order in which they became ready, so the reply comes behind
them, and each of them is turned away first (`Spent`).  But an utterance that is
answered at once leaves the channel free for the next one.
-/
import CommandBar.Proofs.Closing
import CommandBar.Proofs.Microphone

namespace CommandBar

/-- Whether the job is a spoken commit. -/
def Job.isSpoken : Job → Bool
  | .commit ticket _ _ => ticket.spoken
  | .resume _ _ => false

/-- The move runs no job but the first one that is ready. -/
def Move.Orderly : Move → Prop
  | .run place => place = 0
  | _ => True

/-- An utterance that has been handed to the interpreter. -/
structure Handover where
  call : Call
  /-- Whether its reply is still to come. -/
  waits : Bool
deriving Repr, DecidableEq

/-- A commit that goes to the interpreter makes a free channel busy. -/
theorem Channel.begin_running {c c' : Channel} {text : Option String} {origin : String}
    {utterance : Utterance} {generation : Nat}
    (h : c.begin text origin = (.ok (.running utterance generation), c')) :
    c.busy = false ∧ c'.busy = true := by
  have hbegins := Channel.begin_begins c text origin
  generalize c.begin text origin = began at h hbegins
  cases hbegins with
  | @refused result c'' busy told calm =>
      cases result with
      | ok outcome => cases h
      | error fault => cases h
  | @blank result c'' free told =>
      cases result with
      | ok outcome => cases h
      | error fault => cases h
  | raised free told rough => cases h
  | running free told =>
      cases h
      exact ⟨free, told.busy_eq⟩

namespace Session

variable {s : Session} {m : Move} {call : Call}

/-- The call with which a move goes to the interpreter. -/
def handed? (s : Session) (m : Move) : Option Call :=
  match s.working m with
  | some (.commit ticket text origin) =>
    match (s.entrance ticket).begin text origin with
    | (.ok (.running utterance generation), _) => some ⟨ticket, utterance, generation⟩
    | _ => none
  | _ => none

/-- The spoken utterance that a move hands over. -/
def handover? (s : Session) (m : Move) : Option Handover :=
  ((s.handed? m).filter fun call => call.ticket.spoken).map fun call =>
    ⟨call, decide (call ∈ (s.move m).waiting)⟩

/-- The spoken utterances that are handed over, in order. -/
def handovers (s : Session) : List Move → List Handover
  | [] => []
  | m :: rest => (s.handover? m).toList ++ (s.move m).handovers rest

/-! ### The queue -/

/-- A move that runs no job makes jobs ready behind the others, and a spoken commit only if the
channel hears. -/
theorem move_ready (h : s.working m = none) :
    ∃ added, (s.move m).ready = s.ready ++ added ∧
      (s.hears = false → ∀ job ∈ added, job.isSpoken = false) := by
  have hnothing : ∀ {s' : Session}, s'.ready = s.ready →
      ∃ added, s'.ready = s.ready ++ added ∧
        (s.hears = false → ∀ job ∈ added, job.isSpoken = false) :=
    fun hsame => ⟨[], by simp [hsame]⟩
  cases m with
  | run place =>
      simp only [working] at h
      exact hnothing (by simp only [move, runAt, h])
  | device refusal => exact hnothing rfl
  | event event =>
      cases event with
      | submit number text origin => exact ⟨[_], rfl, by simp [Job.isSpoken]⟩
      | reply reply =>
          simp only [move, step, take]
          split
          · exact ⟨[_], rfl, by simp [Job.isSpoken]⟩
          · exact hnothing rfl
      | voice number event =>
          simp only [move, step, hear]
          split
          · exact hnothing rfl
          · exact hnothing rfl
          · next transcript c heard =>
              refine ⟨[_], rfl, fun hdeaf => ?_⟩
              rw [Channel.hear_deaf hdeaf] at heard
              cases heard
      | reopen | close | startListening | stopListening | change => exact hnothing rfl
      | run =>
          simp only [working] at h
          exact hnothing (by simp only [move, step, runNext_eq_runAt, runAt, h])

/-- The job that is run is the first one. -/
theorem move_head {job : Job} (horder : m.Orderly) (h : s.working m = some job) :
    ∃ rest, s.ready = job :: rest ∧ s.move m = ({ s with ready := rest } : Session).work job := by
  have hfirst : s.ready[0]? = some job ∧ s.move m = s.runAt 0 := by
    cases m with
    | run place =>
        obtain rfl : place = 0 := horder
        exact ⟨h, rfl⟩
    | device => simp [working] at h
    | event event =>
        cases event with
        | run => exact ⟨h, runNext_eq_runAt s⟩
        | submit | reply | voice | reopen | close | startListening | stopListening | change =>
            simp [working] at h
  obtain ⟨hready, hmove⟩ := hfirst
  cases hjobs : s.ready with
  | nil => simp [hjobs] at hready
  | cons first rest =>
      obtain rfl : first = job := by simpa [hjobs] using hready
      exact ⟨rest, rfl, by simp [hmove, runAt, hjobs]⟩

/-! ### Going to the interpreter -/

theorem handed?_eq_some (h : s.handed? m = some call) :
    ∃ text origin c, s.working m = some (.commit call.ticket text origin) ∧
      (s.entrance call.ticket).begin text origin =
        (.ok (.running call.utterance call.generation), c) := by
  unfold handed? at h
  split at h
  · next ticket text origin hworking =>
      split at h
      · next utterance generation c hbegin =>
          cases h
          exact ⟨text, origin, c, hworking, hbegin⟩
      · cases h
  · cases h

/-- An utterance is handed over by a free channel, which is busy while the call asks. -/
theorem handed_asks (h : s.handed? m = some call) :
    s.channel.busy = false ∧ ∃ text origin rest c,
      (.commit call.ticket text origin :: rest).Perm s.ready ∧ c.busy = true ∧
      s.move m = (({ s with ready := rest } : Session).withChannel c).ask call := by
  obtain ⟨text, origin, c, hworking, hbegin⟩ := handed?_eq_some h
  obtain ⟨rest, hrest, hmove⟩ := move_working hworking
  obtain ⟨hfree, hbusy⟩ := Channel.begin_running hbegin
  have hsame : ({ s with ready := rest } : Session).entrance call.ticket =
      s.entrance call.ticket := rfl
  rw [work, start, hsame, hbegin] at hmove
  exact ⟨(s.entrance_undisturbed call.ticket).busy_eq.symm.trans hfree, text, origin, rest, c,
    hrest, hbusy, hmove⟩

theorem handover?_eq_some {o : Handover} (h : s.handover? m = some o) :
    s.handed? m = some o.call ∧ o.call.ticket.spoken = true ∧
      (o.waits = true → o.call ∈ (s.move m).waiting) := by
  simp only [handover?, Option.map_eq_some_iff, Option.filter_eq_some_iff] at h
  obtain ⟨call, ⟨hhanded, hspoken⟩, rfl⟩ := h
  exact ⟨hhanded, hspoken, of_decide_eq_true⟩

/-! ### After an utterance that waits -/

/-- Nothing more can come of the capture: the channel does not hear, and of the jobs that are
ready the first ones are commits that will be turned away and the others are not spoken. -/
structure Spent (s : Session) (front back : List Job) : Prop where
  deaf : s.hears = false
  ready : s.ready = front ++ back
  commits : ∀ job ∈ front, job.call? = none
  busy : front ≠ [] → s.channel.busy = true
  typed : ∀ job ∈ back, job.isSpoken = false

/-- It is so once an utterance that waits has been handed over. -/
theorem Guarded.spent (h : s.Guarded) (hhanded : s.handed? m = some call)
    (hwaits : call ∈ (s.move m).waiting) : ∃ front, (s.move m).Spent front [] := by
  obtain ⟨hfree, text, origin, rest, c, hrest, hbusy, hmove⟩ := handed_asks hhanded
  obtain ⟨hwaiting, hresumed⟩ := List.append_eq_nil_iff.mp (h.outstanding_nil hfree)
  have hasks := ask_asks (({ s with ready := rest } : Session).withChannel c) call
  obtain ⟨text', origin', c', hworking, -⟩ := handed?_eq_some hhanded
  rw [← hmove] at hasks
  refine ⟨rest, working_deaf h.deaf hworking, ?_, ?_, fun _ => ?_, by simp⟩
  · rw [hmove, ask_ready, List.append_nil]
    rfl
  · intro job hjob
    exact List.filterMap_eq_nil_iff.mp hresumed job (hrest.subset (List.mem_cons_of_mem _ hjob))
  · generalize s.move m = s' at hasks hwaits
    cases hasks with
    | @ended t done channel ready waiting host =>
        -- a call that has ended does not wait, and no other one did before
        have hnone : (t.complete call done).waiting = [] := waiting.trans hwaiting
        rw [hnone] at hwaits
        cases hwaits
    | waits query => exact hbusy

/-- A commit that begins during another one leaves the channel busy. -/
theorem Starts.busy {ticket : Ticket} {s' : Session} (hbusy : s.channel.busy = true)
    (h : Starts s ticket s') : s'.channel.busy = true := by
  cases h with
  | refused busy told calm =>
      exact told.busy_eq.trans ((s.entrance_undisturbed ticket).busy_eq.trans hbusy)
  | raised rough told => exact told.busy_eq
  | blank free told =>
      rw [hbusy] at free
      cases free
  | running free told asks =>
      rw [hbusy] at free
      cases free

variable {front back : List Job}

/-- It stays so as long as the microphone is not started. -/
theorem Spent.move (h : s.Spent front back) (horder : m.Orderly)
    (hstarts : (s.move m).channel.starts = s.channel.starts) :
    ∃ front' back', (s.move m).Spent front' back' := by
  have hdeaf : (s.move m).hears = false := by
    by_contra hhears
    rw [Bool.not_eq_false] at hhears
    rcases heard_of_move (fun _ => h.deaf) hhears with hbefore | ⟨-, hmore⟩
    · exact Bool.false_ne_true (h.deaf.symm.trans hbefore)
    · omega
  cases hworking : s.working m with
  | none =>
      obtain ⟨added, hready, htyped⟩ := move_ready hworking
      have hbusy := (move_around hworking).undisturbed.busy_eq
      refine ⟨front, back ++ added, hdeaf, ?_, h.commits, ?_, ?_⟩
      · rw [hready, h.ready, List.append_assoc]
      · intro hfront
        rw [hbusy]
        exact h.busy hfront
      · intro job hjob
        rcases List.mem_append.mp hjob with hback | hadded
        · exact h.typed job hback
        · exact htyped h.deaf job hadded
  | some job =>
      obtain ⟨rest, hrest, hmove⟩ := move_head horder hworking
      have hready : (s.move m).ready = rest := by rw [hmove, work_ready]
      have hsplit := h.ready.symm.trans hrest
      cases front with
      | nil =>
          -- a job from behind is run, and no commit is left to be turned away
          obtain rfl : back = job :: rest := hsplit
          exact ⟨[], rest, hdeaf, hready, by simp, by simp,
            fun job' hjob => h.typed job' (List.mem_cons_of_mem _ hjob)⟩
      | cons first front =>
          obtain ⟨rfl, rfl⟩ := List.cons.inj hsplit
          refine ⟨front, back, hdeaf, hready,
            fun job' hjob => h.commits job' (List.mem_cons_of_mem _ hjob), fun _ => ?_, h.typed⟩
          have hbusy := h.busy (List.cons_ne_nil _ _)
          have hcommit := h.commits first List.mem_cons_self
          cases first with
          | resume call reply => cases hcommit
          | commit ticket text origin =>
              rw [hmove]
              exact Starts.busy (s := { s with ready := front ++ back }) hbusy (start_starts ..)

/-- So nothing more is handed over that was spoken. -/
theorem Spent.handover?_eq_none (h : s.Spent front back) (horder : m.Orderly) :
    s.handover? m = none := by
  by_contra hsome
  obtain ⟨o, ho⟩ := Option.ne_none_iff_exists'.mp hsome
  obtain ⟨hhanded, hspoken, -⟩ := handover?_eq_some ho
  obtain ⟨text, origin, c, hworking, hbegin⟩ := handed?_eq_some hhanded
  obtain ⟨rest, hrest, -⟩ := move_head horder hworking
  have hsplit := h.ready.symm.trans hrest
  cases front with
  | nil =>
      obtain rfl : back = _ := hsplit
      exact Bool.false_ne_true ((h.typed _ List.mem_cons_self).symm.trans hspoken)
  | cons first front =>
      have hbusy := h.busy (List.cons_ne_nil _ _)
      obtain ⟨hfree, -⟩ := handed_asks hhanded
      exact Bool.false_ne_true (hfree.symm.trans hbusy)

/-! ### Runs -/

variable {moves : List Move}

/-- Where the microphone is not started in some moves, it is so neither in the first of them nor
in the others. -/
theorem starts_cons (h : (s.through (m :: moves)).channel.starts = s.channel.starts) :
    (s.move m).channel.starts = s.channel.starts ∧
      ((s.move m).through moves).channel.starts = (s.move m).channel.starts := by
  have hfirst := through_starts_le s [m]
  have hothers := through_starts_le (s.move m) moves
  change s.channel.starts ≤ (s.move m).channel.starts at hfirst
  change ((s.move m).through moves).channel.starts = s.channel.starts at h
  omega

theorem Spent.handovers_eq_nil (h : s.Spent front back) (horder : ∀ m ∈ moves, m.Orderly)
    (hstarts : (s.through moves).channel.starts = s.channel.starts) :
    s.handovers moves = [] := by
  induction moves generalizing s front back with
  | nil => rfl
  | cons m rest ih =>
      obtain ⟨hfirst, hothers⟩ := starts_cons hstarts
      obtain ⟨hm, hrest⟩ := List.forall_mem_cons.mp horder
      obtain ⟨front', back', hspent⟩ := h.move hm hfirst
      rw [handovers, h.handover?_eq_none hm, ih hspent hrest hothers]
      rfl

theorem Guarded.handovers_pairwise (h : s.Guarded) (horder : ∀ m ∈ moves, m.Orderly)
    (hstarts : (s.through moves).channel.starts = s.channel.starts) :
    (s.handovers moves).Pairwise fun first _ => first.waits = false := by
  induction moves generalizing s with
  | nil => exact .nil
  | cons m rest ih =>
      obtain ⟨hfirst, hothers⟩ := starts_cons hstarts
      obtain ⟨-, hrest⟩ := List.forall_mem_cons.mp horder
      have hlater := ih (h.move m) hrest hothers
      rw [handovers]
      cases ho : s.handover? m with
      | none => exact hlater
      | some o =>
          refine List.pairwise_cons.mpr ⟨fun other hother => ?_, hlater⟩
          by_contra hwaits
          rw [Bool.not_eq_false] at hwaits
          obtain ⟨hhanded, -, hwaiting⟩ := handover?_eq_some ho
          obtain ⟨front, hspent⟩ := h.spent hhanded (hwaiting hwaits)
          rw [hspent.handovers_eq_nil hrest hothers] at hother
          cases hother

/-- **Of the spoken utterances that one capture has handed to the interpreter, all but the last
were answered at once.**  So there is at most one if the interpreter never answers before its
reply has been waited for.  Between two moments the microphone is not started if the number of its
starts is the same. -/
theorem capture_handovers (hfresh : s.Fresh) (before capture : List Move)
    (horder : ∀ m ∈ capture, m.Orderly)
    (hstarts : (s.through (before ++ capture)).channel.starts =
      (s.through before).channel.starts) :
    ((s.through before).handovers capture).Pairwise (fun first _ => first.waits = false) ∧
      ((∀ o ∈ (s.through before).handovers capture, o.waits = true) →
        ((s.through before).handovers capture).length ≤ 1) := by
  rw [through_append] at hstarts
  have hpairwise := (hfresh.guarded.through before).handovers_pairwise horder hstarts
  refine ⟨hpairwise, fun hwaits => ?_⟩
  generalize (s.through before).handovers capture = handed at hpairwise hwaits
  match handed, hpairwise with
  | [], _ => exact Nat.zero_le _
  | [_], _ => exact Nat.le_refl _
  | first :: second :: _, hpairwise =>
      have hanswered := (List.pairwise_cons.mp hpairwise).1 second List.mem_cons_self
      rw [hwaits first List.mem_cons_self] at hanswered
      cases hanswered

/-- Two final transcripts of one capture, each with its commit run. -/
def twoTranscripts : List Move :=
  [.event (.voice 1 (.final "add a clock")), .event (.voice 2 (.final "add a clock")),
    .event .run, .event .run]

/-- The second one is turned away while the first one waits. -/
theorem capture_handovers_waiting :
    initial.Fresh ∧ (∀ m ∈ twoTranscripts, m.Orderly) ∧
      (initial.through ([.event .startListening] ++ twoTranscripts)).channel.starts =
        (initial.through [.event .startListening]).channel.starts ∧
      ((initial.through [.event .startListening]).handovers twoTranscripts).length ≤ 1 := by
  have horder : ∀ m ∈ twoTranscripts, m.Orderly := by simp [twoTranscripts, Move.Orderly]
  have hstarts : (initial.through ([.event .startListening] ++ twoTranscripts)).channel.starts =
      (initial.through [.event .startListening]).channel.starts := by decide +kernel
  have hhanded := (capture_handovers initial_fresh [.event .startListening] twoTranscripts horder
    hstarts).2
  exact ⟨initial_fresh, horder, hstarts, hhanded (by decide +kernel)⟩

/-- If the replies are there before they are asked for, one capture makes two utterances. -/
theorem capture_hands_twice :
    ((initial.through [.event (.reply clockReply), .event (.reply clockReply)]).step
        .startListening).1 = .ok (.flag true) ∧
      ((initial.through [.event (.reply clockReply), .event (.reply clockReply),
        .event .startListening]).handovers twoTranscripts).length = 2 ∧
      (initial.through ([.event (.reply clockReply), .event (.reply clockReply),
        .event .startListening] ++ twoTranscripts)).channel.starts = 1 := by
  decide +kernel

end Session

end CommandBar
