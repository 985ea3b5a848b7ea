/-
What the moves of a session leave behind.

Three facts about an interleaving, each by induction along its moves, with the last
move as the step.

  * The interface is open to a generation as long as no move has closed it.
  * A call that is outstanding was made by a commit that one of the moves began, and
    belongs to the generation of that moment.
  * A number that is asked for once is that of one commit, which is ready or has a
    call outstanding, but never both.
-/
import CommandBar.Proofs.Interleaving
import Mathlib.Data.List.Induction
import Mathlib.Data.List.Nodup

namespace CommandBar

namespace Session

variable {s : Session} {m : Move} {call : Call}

/-! ### The interface -/

theorem through_generation_le (s : Session) (moves : List Move) :
    s.channel.generation ≤ (s.through moves).channel.generation := by
  induction moves using List.reverseRecOn with
  | nil => exact Nat.le_refl _
  | append_singleton front m ih =>
      rw [through_snoc]
      exact Nat.le_trans ih (move_generation_le _ m)

/-- The interface stays open to a generation as long as it is not closed. -/
theorem through_isLive {generation : Nat} (hbegun : generation ≤ s.channel.generation)
    (moves : List Move) :
    (s.through moves).channel.isLive generation = true ↔
      s.channel.isLive generation = true ∧ .event .close ∉ moves := by
  induction moves using List.reverseRecOn with
  | nil => simp [through]
  | append_singleton front m ih =>
      rw [through_snoc, move_isLive (Nat.le_trans hbegun (through_generation_le s front)), ih,
        List.mem_append, List.mem_singleton, not_or, and_assoc, ne_comm]

/-! ### The commits that have not ended -/

/-- A job that is run ends its commit, or begins it and changes nothing yet. -/
theorem working_numbers {job : Job} (h : s.working m = some job) :
    (job.ticket.number :: (s.move m).numbers).Perm s.numbers ∨
      (s.move m).numbers.Perm s.numbers ∧ (s.move m).host = s.host := by
  obtain ⟨rest, hrest, hready, hwaiting⟩ := working_waiting h
  have hnumbers := (hrest.map fun job : Job => job.ticket.number).append_right
    (s.waiting.map fun call : Call => call.ticket.number)
  rcases hwaiting with hsame | ⟨call, text, origin, rfl, -, hadded, hhost⟩
  · refine Or.inl ?_
    rw [numbers, hready, hsame]
    exact hnumbers
  · -- the number goes over from the queue to the calls
    refine Or.inr ⟨?_, hhost⟩
    rw [numbers, hready, hadded, List.map_append, ← List.append_assoc]
    exact (List.perm_append_singleton _ _).trans hnumbers

theorem move_numbers_count (s : Session) (m : Move) (n : Nat) :
    (s.move m).numbers.count n ≤ s.numbers.count n + m.number?.toList.count n := by
  cases hworking : s.working m with
  | none =>
      obtain ⟨asked, hasked, hnumbers⟩ := (move_around hworking).numbers
      have hcount := hasked.count_le n
      rw [hnumbers.count_eq, List.count_append]
      omega
  | some job =>
      rcases working_numbers hworking with hnumbers | ⟨hnumbers, -⟩
      · have hcount := hnumbers.count_eq n
        rw [List.count_cons] at hcount
        omega
      · have hcount := hnumbers.count_eq n
        omega

theorem through_numbers_count (s : Session) (moves : List Move) (n : Nat) :
    (s.through moves).numbers.count n ≤
      s.numbers.count n + (moves.filterMap Move.number?).count n := by
  induction moves using List.reverseRecOn with
  | nil => exact Nat.le_refl _
  | append_singleton front m ih =>
      have hmove := move_numbers_count (s.through front) m n
      have hlast : [m].filterMap Move.number? = m.number?.toList := by
        rw [List.filterMap_eq_flatMap_toList, List.flatMap_singleton]
      rw [through_snoc, List.filterMap_append, List.count_append, hlast]
      omega

/-- A commit that has not ended was there, or was asked for. -/
theorem mem_numbers_through {moves : List Move} {n : Nat} (h : n ∈ (s.through moves).numbers) :
    n ∈ s.numbers ∨ n ∈ moves.filterMap Move.number? := by
  have hcount := through_numbers_count s moves n
  rw [← List.count_pos_iff] at h
  rw [← List.count_pos_iff, ← List.count_pos_iff]
  omega

theorem Fresh.numbers_eq (h : s.Fresh) : s.numbers = [] := by
  simp [numbers, h.ready, h.waiting]

theorem Fresh.asked_of_mem (h : s.Fresh) {moves : List Move} {n : Nat}
    (hn : n ∈ (s.through moves).numbers) : n ∈ moves.filterMap Move.number? := by
  rcases mem_numbers_through hn with hthere | hasked
  · simp [h.numbers_eq] at hthere
  · exact hasked

/-- If no number is asked for twice, no commit is there twice. -/
theorem Fresh.numbers_nodup (h : s.Fresh) {moves : List Move}
    (hdistinct : (moves.filterMap Move.number?).Nodup) : (s.through moves).numbers.Nodup := by
  rw [List.nodup_iff_count_le_one] at hdistinct ⊢
  intro n
  have hcount := through_numbers_count s moves n
  rw [h.numbers_eq, List.count_nil] at hcount
  have hone := hdistinct n
  omega

/-- What was asked for is not asked for again. -/
theorem not_asked_again {front back : List Move} {m : Move} {n : Nat}
    (hdistinct : ((front ++ m :: back).filterMap Move.number?).Nodup)
    (hasked : n ∈ front.filterMap Move.number?) : n ∉ back.filterMap Move.number? := by
  rw [List.filterMap_append] at hdistinct
  intro hagain
  have hlater : n ∈ (m :: back).filterMap Move.number? :=
    ((List.sublist_cons_self m back).filterMap _).subset hagain
  exact List.disjoint_of_nodup_append hdistinct hasked hlater

/-! ### Where a job comes from -/

/-- A commit that is ready was ready before, or was asked for. -/
theorem commit_mem_through {moves : List Move} {ticket : Ticket} {text : Option String}
    {origin : String} (h : .commit ticket text origin ∈ (s.through moves).ready) :
    .commit ticket text origin ∈ s.ready ∨ ticket.number ∈ moves.filterMap Move.number? := by
  induction moves using List.reverseRecOn with
  | nil => exact Or.inl h
  | append_singleton front m ih =>
      rw [through_snoc] at h
      have hbefore : .commit ticket text origin ∈ (s.through front).ready ∨
          m.number? = some ticket.number := by
        cases hworking : (s.through front).working m with
        | none => exact (move_around hworking).commit _ _ _ h
        | some job =>
            obtain ⟨rest, hrest, hready, -⟩ := working_waiting hworking
            rw [hready] at h
            exact Or.inl (hrest.subset (List.mem_cons_of_mem _ h))
      rcases hbefore with hready | hnumber
      · rw [List.filterMap_append, List.mem_append]
        exact (ih hready).imp_right Or.inl
      · refine Or.inr (List.mem_filterMap.mpr ⟨m, ?_, hnumber⟩)
        exact List.mem_append_right _ List.mem_cons_self

/-- One of the moves began the commit of the call, in the generation of the call. -/
def Begun (s : Session) (moves : List Move) (call : Call) : Prop :=
  ∃ first begin since text origin, moves = first ++ begin :: since ∧
    (s.through first).working begin = some (.commit call.ticket text origin) ∧
    call.generation = (s.through first).channel.generation

/-- A call that is outstanding after a move was so before, or its commit has just begun. -/
theorem mem_outstanding_of_move (h : call ∈ (s.move m).outstanding) :
    call ∈ s.outstanding ∨ ∃ text origin, s.working m = some (.commit call.ticket text origin) ∧
      call.generation = s.channel.generation := by
  cases hworking : s.working m with
  | none => exact Or.inl ((move_around hworking).outstanding.subset h)
  | some job =>
      obtain ⟨rest, hrest, hready, hwaiting⟩ := working_waiting hworking
      rw [mem_outstanding, hready] at h
      rcases h with hwaits | ⟨reply, hreply⟩
      · rcases hwaiting with hsame | ⟨call', text, origin, rfl, hgeneration, hadded, -⟩
        · rw [hsame] at hwaits
          exact Or.inl (mem_outstanding.mpr (Or.inl hwaits))
        · rw [hadded, List.mem_append, List.mem_singleton] at hwaits
          rcases hwaits with hbefore | rfl
          · exact Or.inl (mem_outstanding.mpr (Or.inl hbefore))
          · exact Or.inr ⟨text, origin, rfl, hgeneration⟩
      · have hbefore := hrest.subset (List.mem_cons_of_mem _ hreply)
        exact Or.inl (mem_outstanding.mpr (Or.inr ⟨reply, hbefore⟩))

theorem mem_outstanding_through {moves : List Move}
    (h : call ∈ (s.through moves).outstanding) : call ∈ s.outstanding ∨ s.Begun moves call := by
  induction moves using List.reverseRecOn with
  | nil => exact Or.inl h
  | append_singleton front m ih =>
      rw [through_snoc] at h
      rcases mem_outstanding_of_move h with hbefore | ⟨text, origin, hworking, hgeneration⟩
      · rcases ih hbefore with hthere | ⟨first, begin, since, text, origin, rfl, hbegin⟩
        · exact Or.inl hthere
        · exact Or.inr ⟨first, begin, since ++ [m], text, origin, by simp, hbegin⟩
      · exact Or.inr ⟨front, m, [], text, origin, rfl, hworking, hgeneration⟩

/-- The generation of a call has begun. -/
theorem Fresh.generation_le (h : s.Fresh) {moves : List Move}
    (hcall : call ∈ (s.through moves).outstanding) :
    call.generation ≤ (s.through moves).channel.generation := by
  rcases mem_outstanding_through hcall with hthere |
    ⟨first, begin, since, text, origin, rfl, -, hgeneration⟩
  · simp [outstanding, h.ready, h.waiting] at hthere
  · rw [hgeneration, through_append]
    exact through_generation_le _ _

/-- Where a job comes from if its number is not asked for by any of the moves. -/
inductive Descends (s : Session) (moves : List Move) : Job → Prop
  /-- It is a commit that was ready. -/
  | commit {ticket : Ticket} {text : Option String} {origin : String}
      (ready : .commit ticket text origin ∈ s.ready) :
      Descends s moves (.commit ticket text origin)
  /-- Its call was outstanding. -/
  | resume {call : Call} {reply : Reply} (there : call ∈ s.outstanding) :
      Descends s moves (.resume call reply)
  /-- Its call was made by a commit that was ready. -/
  | begun {call : Call} {reply : Reply} {first since : List Move} {begin : Move}
      {text : Option String} {origin : String} (split : moves = first ++ begin :: since)
      (ready : .commit call.ticket text origin ∈ s.ready)
      (working : (s.through first).working begin = some (.commit call.ticket text origin))
      (generation : call.generation = (s.through first).channel.generation) :
      Descends s moves (.resume call reply)

theorem descends {moves : List Move} {job : Job}
    (hnew : job.ticket.number ∉ moves.filterMap Move.number?)
    (hjob : job ∈ (s.through moves).ready) : Descends s moves job := by
  cases job with
  | commit ticket text origin =>
      rcases commit_mem_through hjob with hthere | hasked
      · exact .commit hthere
      · exact absurd hasked hnew
  | resume call reply =>
      rcases mem_outstanding_through (mem_outstanding.mpr (Or.inr ⟨reply, hjob⟩)) with
        hthere | ⟨first, begin, since, text, origin, rfl, hworking, hgeneration⟩
      · exact .resume hthere
      · refine .begun rfl ?_ hworking hgeneration
        rcases commit_mem_through (working_mem hworking) with hthere | hasked
        · exact hthere
        · rw [List.filterMap_append, List.mem_append, not_or] at hnew
          exact absurd hasked hnew.1

/-! ### One commit for each number -/

theorem number_mem (h : call ∈ s.outstanding) : call.ticket.number ∈ s.numbers := by
  rw [numbers, List.mem_append, List.mem_map, List.mem_map]
  rcases mem_outstanding.mp h with hwaiting | ⟨reply, hreply⟩
  · exact Or.inr ⟨call, hwaiting, rfl⟩
  · exact Or.inl ⟨_, hreply, rfl⟩

theorem job_number_mem {job : Job} (h : job ∈ s.ready) : job.ticket.number ∈ s.numbers :=
  List.mem_append_left _ (List.mem_map_of_mem h)

/-- The only job that a call can have is the one that goes on with it. -/
theorem eq_resume_of_number (hdistinct : s.numbers.Nodup) (hcall : call ∈ s.outstanding)
    {job : Job} (hjob : job ∈ s.ready) (hnumber : job.ticket.number = call.ticket.number) :
    ∃ reply, job = .resume call reply := by
  rcases mem_outstanding.mp hcall with hwaiting | ⟨reply, hreply⟩
  · have hdisjoint := List.disjoint_of_nodup_append hdistinct
    have hready : call.ticket.number ∈ s.ready.map (·.ticket.number) := by
      rw [← hnumber]
      exact List.mem_map_of_mem hjob
    exact absurd (List.mem_map_of_mem hwaiting) (hdisjoint hready)
  · exact ⟨reply, List.inj_on_of_nodup_map hdistinct.of_append_left hjob hreply hnumber⟩

theorem eq_of_number (hdistinct : s.numbers.Nodup) (hcall : call ∈ s.outstanding) {other : Call}
    (hother : other ∈ s.outstanding) (hnumber : other.ticket.number = call.ticket.number) :
    other = call := by
  rcases mem_outstanding.mp hother with hwaiting | ⟨reply, hreply⟩
  · rcases mem_outstanding.mp hcall with hwaiting' | ⟨reply', hreply'⟩
    · exact List.inj_on_of_nodup_map hdistinct.of_append_right hwaiting hwaiting' hnumber
    · obtain ⟨reply, hsame⟩ := eq_resume_of_number hdistinct hother hreply' hnumber.symm
      cases hsame
      rfl
  · obtain ⟨reply', hsame⟩ := eq_resume_of_number hdistinct hcall hreply hnumber
    cases hsame
    rfl

/-- A call that is outstanding keeps its number to itself as long as the number is not asked for
again. -/
theorem eq_resume_of_through (hdistinct : s.numbers.Nodup) (hcall : call ∈ s.outstanding)
    {moves : List Move} (hnew : call.ticket.number ∉ moves.filterMap Move.number?) {job : Job}
    (hjob : job ∈ (s.through moves).ready) (hnumber : job.ticket.number = call.ticket.number) :
    ∃ reply, job = .resume call reply := by
  rw [← hnumber] at hnew
  cases descends hnew hjob with
  | commit ready =>
      obtain ⟨reply, hsame⟩ := eq_resume_of_number hdistinct hcall ready hnumber
      cases hsame
  | @resume other reply there => exact ⟨reply, by rw [eq_of_number hdistinct hcall there hnumber]⟩
  | begun split ready hworking generation =>
      obtain ⟨reply, hsame⟩ := eq_resume_of_number hdistinct hcall ready hnumber
      cases hsame

/-! ### Where a call goes -/

/-- A call is outstanding until it is run with its reply. -/
theorem mem_outstanding_move (h : call ∈ s.outstanding) (m : Move) :
    call ∈ (s.move m).outstanding ∨ ∃ reply, s.working m = some (.resume call reply) := by
  cases hworking : s.working m with
  | none => exact Or.inl ((move_around hworking).outstanding.symm.subset h)
  | some job =>
      obtain ⟨rest, hrest, hready, hwaiting⟩ := working_waiting hworking
      rw [mem_outstanding] at h
      rw [mem_outstanding, hready]
      rcases h with hwaits | ⟨reply, hreply⟩
      · refine Or.inl (Or.inl ?_)
        rcases hwaiting with hsame | ⟨call', text, origin, -, -, hadded, -⟩
        · rwa [hsame]
        · rw [hadded]
          exact List.mem_append_left _ hwaits
      · rcases List.mem_cons.mp (hrest.symm.subset hreply) with rfl | hlater
        · exact Or.inr ⟨reply, rfl⟩
        · exact Or.inl (Or.inr ⟨reply, hlater⟩)

theorem mem_outstanding_until (h : call ∈ s.outstanding) (moves : List Move) :
    call ∈ (s.through moves).outstanding ∨ ∃ front m rest reply, moves = front ++ m :: rest ∧
      (s.through front).working m = some (.resume call reply) := by
  induction moves using List.reverseRecOn with
  | nil => exact Or.inl h
  | append_singleton front m ih =>
      rw [through_snoc]
      rcases ih with hthere | ⟨front', m', rest, reply, rfl, hworking⟩
      · refine (mem_outstanding_move hthere m).imp_right ?_
        rintro ⟨reply, hworking⟩
        exact ⟨front, m, [], reply, rfl, hworking⟩
      · exact Or.inr ⟨front', m', rest ++ [m], reply, by simp, hworking⟩

end Session

end CommandBar
