/-
How a channel is freed.

The flag of a channel goes up as a commit begins and comes down as its call ends, and
neither the interpreter nor the listener can keep it up, but for one telling: the one
that a commit begins with comes behind the raising of the flag and in front of the query.
If no commit stumbles over it, a run is the same as with nobody to hear, so what is
known of calm sessions holds: the channel is busy just while a call is outstanding, and
free after every commit that ends, apart from those that are turned away because of that
call.  If one does, the flag stays up with no call to take it down, and that never changes.
-/
import CommandBar.Proofs.Listener

namespace CommandBar

namespace Channel

/-- The next command goes to the interpreter, unless the telling that it begins with fails. -/
def Accepts (c : Channel) : Prop :=
  ∀ text origin, Text.trim (text.getD "") ≠ "" → ¬ c.listener.Fails →
    (c.begin text origin).1 = .ok (.running ⟨Text.trim (text.getD ""), origin⟩ c.generation)

theorem accepts_of_free {c : Channel} (h : c.busy = false) : c.Accepts := by
  intro text origin hgiven hhears
  have hhears' : ¬ ({ c with busy := true, phase := .committed } : Channel).listener.Fails := hhears
  rw [begin_eq_tell h hgiven]
  exact tell_succeeds hhears' _ _

end Channel

namespace Session

variable {s s' : Session} {t : Turn} {m : Move} {ticket : Ticket} {text : Option String}
  {turns : List Turn}

/-! ### Runs without a stumble -/

/-- A commit begins in none of the turns with a telling that fails. -/
inductive Smooth (s : Session) : List Turn → Prop
  | nil : Smooth s []
  | snoc {front : List Turn} {t : Turn} (smooth : Smooth s front)
      (hears : ¬ (s.play front).Stumbles t) : Smooth s (front ++ [t])

theorem Single.hushed (h : s.Single) : s.hushed.Single where
  steady := ⟨h.steady.busy_iff, by simp [Listener.Calm, Session.hushed, Channel.hushed]⟩
  outstanding := h.outstanding

theorem Single.hushed_turn (h : s.hushed.Single) (hears : ¬ s.Stumbles t) :
    (s.turn t).hushed.Single := by
  rw [← turn_hushed hears]
  exact (h.turn t).hushed

/-- The invariant of calm sessions holds of the run with nobody to hear, and so of the flag, the
phase and the calls of the run itself. -/
theorem Smooth.single (h : s.Smooth turns) (hfresh : s.Fresh) :
    (s.play turns).hushed.Single := by
  induction h with
  | nil =>
      have hhushed : s.hushed.Fresh := ⟨hfresh.ready, hfresh.waiting, hfresh.busy, hfresh.phase⟩
      exact hhushed.single (by simp [Listener.Calm, Session.hushed, Channel.hushed])
  | snoc smooth hears ih =>
      rw [play_snoc]
      exact ih.hushed_turn hears

/-! ### The end of a commit -/

/-- A commit begins while the channel is busy. -/
def TurnsAway (s : Session) (ticket : Ticket) (t : Turn) : Prop :=
  ∃ m text origin, t = .move m ∧ s.working m = some (.commit ticket text origin) ∧
    s.channel.busy = true

/-- The commit that ends has been turned away: the call of another one is outstanding, and still
is. -/
structure Outlasts (s s' : Session) : Prop where
  busy : s.channel.busy = true
  busy' : s'.channel.busy = true
  phase : s'.channel.phase = .committed
  outstanding : s'.outstanding = s.outstanding

theorem TurnsAway.not_stumbles (h : s.TurnsAway ticket t) : ¬ s.Stumbles t := by
  obtain ⟨-, -, -, -, -, hbusy⟩ := h
  rintro ⟨-, -, -, -, -, -, hfree, -⟩
  exact absurd (hbusy.symm.trans hfree) (by simp)

/-- A commit that begins while the channel is busy ends there, whether or not that can be told. -/
theorem Starts.ends_of_busy (h : s.Starts ticket s') (hbusy : s.channel.busy = true) :
    ∃ result, s'.finished = s.finished ++ [(ticket.number, result)] := by
  cases h with
  | refused busy told calm => exact ⟨_, rfl⟩
  | blank free told => exact ⟨_, rfl⟩
  | raised rough told => exact ⟨_, rfl⟩
  | running free told asks => exact absurd (hbusy.symm.trans free) (by simp)

theorem TurnsAway.ends (h : s.TurnsAway ticket t) :
    ∃ result, (s.turn t).finished = s.finished ++ [(ticket.number, result)] := by
  obtain ⟨m, text, origin, rfl, hworking, hbusy⟩ := h
  obtain ⟨rest, -, hmove⟩ := move_working hworking
  have hstarts := start_starts { s with ready := rest } ticket text origin
  rw [Session.turn, hmove]
  exact hstarts.ends_of_busy hbusy

/-- In a calm session such a commit leaves everything to the one that is under way. -/
theorem Single.outlasts (h : s.Single) (haway : s.TurnsAway ticket t) :
    s.Outlasts (s.turn t) := by
  obtain ⟨m, text, origin, rfl, hworking, hbusy⟩ := haway
  have hrefused := h.refused_move hbusy hworking
  exact {
    busy := hbusy
    busy' := hrefused.busy.trans hbusy
    phase := hrefused.phase.trans (h.steady.busy_iff.mp hbusy)
    outstanding := hrefused.outstanding }

theorem move_finished (h : s.working m = none) : (s.move m).finished = s.finished := by
  have hidle : ∀ place, s.ready[place]? = none → (s.runAt place).finished = s.finished := by
    intro place hplace
    simp only [runAt, hplace]
  cases m with
  | run place => exact hidle place h
  | device refusal => rfl
  | event event =>
      cases event with
      | submit | reopen | close | startListening | stopListening | change => rfl
      | reply reply =>
          simp only [move, step, take]
          split <;> rfl
      | voice number event =>
          simp only [move, step, hear]
          split <;> rfl
      | run =>
          simp only [move, step, runNext_eq_runAt]
          exact hidle 0 h

/-- In a calm session a commit that leaves the channel busy, and found it free, has not ended. -/
theorem Starts.finished_eq (h : s.Starts ticket s') (hcalm : s.channel.listener.Calm)
    (hfree : s.channel.busy = false) (hbusy : s'.channel.busy = true) :
    s'.finished = s.finished := by
  cases h with
  | refused busy told calm =>
      rw [hfree] at busy
      cases busy
  | @blank result c free told =>
      have hfree' : c.busy = false :=
        told.busy_eq.trans ((s.entrance_undisturbed ticket).busy_eq.trans free)
      exact absurd hbusy (by simpa [withChannel, finish] using hfree')
  | raised rough told => exact absurd hcalm rough
  | running free told asks =>
      cases asks with
      | @ended t done channel ready waiting host =>
          have hfree' := Channel.finish_busy t.channel s.channel.generation done.result
          exact absurd (hbusy.symm.trans hfree') (by simp)
      | waits query => rfl

/-- So if it has ended, it has left the channel idle. -/
theorem Single.idle_of_commit (h : s.Single) {origin : String} (hfree : s.channel.busy = false)
    (hworking : s.working m = some (.commit ticket text origin))
    (hends : (s.move m).finished ≠ s.finished) : (s.move m).Idle := by
  refine h.idle_move hfree hworking ?_
  rw [← Bool.not_eq_true]
  intro hbusy
  obtain ⟨rest, -, hmove⟩ := move_working hworking
  rw [hmove] at hbusy hends
  have hstarts := start_starts { s with ready := rest } ticket text origin
  exact hends (hstarts.finished_eq h.steady.calm hfree hbusy)

/-- In a calm session every commit that ends leaves the channel idle, unless it is turned away. -/
theorem Single.idle_of_ends (h : s.Single) (hkept : ∀ ticket, ¬ s.TurnsAway ticket t)
    (hends : (s.turn t).finished ≠ s.finished) : (s.turn t).Idle := by
  cases hending : s.ending t with
  | some call => exact (h.ending_idle hending).1
  | none =>
      cases t with
      | complete place done =>
          simp only [ending] at hending
          simp only [Session.turn, hending, ne_eq, not_true_eq_false] at hends
      | move m =>
          rw [Session.turn] at hends ⊢
          cases hworking : s.working m with
          | none => exact absurd (move_finished hworking) hends
          | some job =>
              cases job with
              | resume call reply => simp [ending, hworking, Job.call?] at hending
              | commit ticket text origin =>
                  have hfree : s.channel.busy = false := by
                    rw [← Bool.not_eq_true]
                    exact fun hbusy => hkept ticket ⟨m, text, origin, rfl, hworking, hbusy⟩
                  exact h.idle_of_commit hfree hworking hends

/-! ### From the run with nobody to hear -/

theorem finished_hushed_length (s : Session) : s.hushed.finished.length = s.finished.length :=
  List.length_map _

theorem Idle.hushed (h : s.Idle) : s.hushed.Idle :=
  ⟨h.busy, h.phase, h.outstanding⟩

theorem Idle.of_hushed (h : s.hushed.Idle) : s.Idle :=
  ⟨h.busy, h.phase, h.outstanding⟩

theorem Outlasts.hushed (h : s.Outlasts s') : s.Outlasts s'.hushed :=
  ⟨h.busy, h.busy', h.phase, h.outstanding⟩

theorem Outlasts.of_hushed (h : s.hushed.Outlasts s'.hushed) : s.Outlasts s' :=
  ⟨h.busy, h.busy', h.phase, h.outstanding⟩

/-- **Whatever the interpreter and the listener do, the channel is free when a commit has ended,
and takes the next one**, as long as telling the user that a commit has begun does not fail.  Only
a commit that begins while another one is under way ends with the channel busy, for that one, which
stays outstanding. -/
theorem commit_releases (hfresh : s.Fresh) (hsmooth : s.Smooth turns) :
    ((s.play turns).channel.busy = true ↔ (s.play turns).channel.phase = .committed) ∧
      ((s.play turns).channel.busy = true ↔ (s.play turns).outstanding.length = 1) ∧
      (∀ t ticket, (s.play turns).TurnsAway ticket t →
        (∃ result, ((s.play turns).turn t).finished =
          (s.play turns).finished ++ [(ticket.number, result)]) ∧
        (s.play turns).Outlasts ((s.play turns).turn t)) ∧
      ∀ t number result, ¬ (s.play turns).Stumbles t →
        (∀ ticket, ¬ (s.play turns).TurnsAway ticket t) →
        ((s.play turns).turn t).finished = (s.play turns).finished ++ [(number, result)] →
        ((s.play turns).turn t).Idle ∧ ((s.play turns).turn t).channel.Accepts := by
  have hsingle := hsmooth.single hfresh
  refine ⟨hsingle.steady.busy_iff, ?_, ?_, ?_⟩
  · have hlength : (s.play turns).outstanding.length = (s.play turns).channel.busy.toNat :=
      hsingle.outstanding
    rw [hlength]
    cases (s.play turns).channel.busy <;> simp
  · intro t ticket haway
    have hsame := turn_hushed haway.not_stumbles
    have houtlasts : (s.play turns).hushed.Outlasts ((s.play turns).hushed.turn t) :=
      hsingle.outlasts haway
    exact ⟨haway.ends, .of_hushed (hsame ▸ houtlasts.hushed)⟩
  · intro t number result hears hkept hends
    have hsame := turn_hushed hears
    have hends' : ((s.play turns).hushed.turn t).finished ≠ (s.play turns).hushed.finished := by
      intro heq
      have hcount := congrArg List.length heq
      rw [← finished_hushed_length, hsame] at hcount
      simp [finished_hushed_length, hends] at hcount
    have hidle := hsingle.idle_of_ends hkept hends'
    have hidle' := Idle.of_hushed (hsame ▸ hidle.hushed)
    exact ⟨hidle', Channel.accepts_of_free hidle'.busy⟩

/-- A listener that hears that the command is under way, and is gone when it is done. -/
def fickle : Session :=
  { initial with channel.listener.faults := [none, some (.crash "RuntimeError" "gone")] }

/-- A command is committed and goes to the interpreter. -/
def committing : List Turn :=
  [.move (.event (.submit 1 (some "add a clock") "typed")), .move (.run 0)]

/-- A second one is asked for while the first is under way. -/
def crowding : List Turn :=
  committing ++ [.move (.event (.submit 2 (some "add a note") "typed"))]

/-- The interpreter comes back without having found the widget. -/
def unfound : Turn :=
  .complete 0 { result := .ok (some (.failed .target "Which one?")), host := initial.host }

/-- Asking for a commit does not begin it. -/
theorem submit_not_stumbles (s : Session) (n : Nat) (text : Option String) (origin : String) :
    ¬ s.Stumbles (.move (.event (.submit n text origin))) := by
  rintro ⟨m, ticket, text, origin, hmove, hworking, -⟩
  cases hmove
  cases hworking

theorem commit_releases_fickle :
    fickle.Fresh ∧ fickle.Smooth committing ∧ ¬ (fickle.play committing).Stumbles unfound ∧
      (∀ ticket, ¬ (fickle.play committing).TurnsAway ticket unfound) ∧
      ((fickle.play committing).turn unfound).finished =
        (fickle.play committing).finished ++ [(1, .error (.crash "RuntimeError" "gone"))] ∧
      ((fickle.play committing).turn unfound).Idle ∧
      fickle.Smooth crowding ∧ (fickle.play crowding).TurnsAway ⟨2, false⟩ (.move (.run 0)) ∧
      (fickle.play crowding).Outlasts ((fickle.play crowding).turn (.move (.run 0))) := by
  have hfresh : fickle.Fresh := ⟨rfl, rfl, rfl, rfl⟩
  have hsmooth : fickle.Smooth committing := by
    refine @Smooth.snoc fickle [.move (.event (.submit 1 (some "add a clock") "typed"))] _
      (@Smooth.snoc fickle [] _ .nil (submit_not_stumbles _ _ _ _)) ?_
    rintro ⟨-, -, -, -, -, -, -, -, -, fault, rest, hfaults⟩
    cases hfaults
  have hhears : ¬ (fickle.play committing).Stumbles unfound := by
    rintro ⟨m, ticket, text, origin, hmove, -⟩
    cases hmove
  have hkept : ∀ ticket, ¬ (fickle.play committing).TurnsAway ticket unfound := by
    rintro ticket ⟨m, text, origin, hmove, -⟩
    cases hmove
  have hends : ((fickle.play committing).turn unfound).finished =
      (fickle.play committing).finished ++ [(1, .error (.crash "RuntimeError" "gone"))] := by
    decide +kernel
  have hcrowding : fickle.Smooth crowding := .snoc hsmooth (submit_not_stumbles _ _ _ _)
  have haway : (fickle.play crowding).TurnsAway ⟨2, false⟩ (.move (.run 0)) :=
    ⟨.run 0, some "add a note", "typed", rfl, by decide +kernel, by decide +kernel⟩
  exact ⟨hfresh, hsmooth, hhears, hkept, hends,
    ((commit_releases hfresh hsmooth).2.2.2 unfound 1 _ hhears hkept hends).1,
    hcrowding, haway, ((commit_releases hfresh hcrowding).2.2.1 _ _ haway).2⟩

/-- The second of two commands that come in a row ends while the channel is busy with the first. -/
theorem ends_busy :
    let second := initial.play [.move (.event (.submit 1 (some "add a clock") "typed")),
      .move (.run 0), .move (.event (.submit 2 (some "add a note") "typed")), .move (.run 0)]
    second.finished = [(2, .ok (some (.failed .input Channel.busyFeedback)))] ∧
      second.channel.busy = true ∧ second.channel.phase = .committed := by
  decide +kernel

/-! ### A commit that stumbles -/

/-- The channel is busy although there is no call whose end could free it. -/
structure Stuck (s : Session) : Prop where
  busy : s.channel.busy = true
  outstanding : s.outstanding = []

/-- Such a channel turns every commit away. -/
theorem Stuck.starts (h : s.Stuck) (hstarts : s.Starts ticket s') : s'.Stuck := by
  have hentrance : (s.entrance ticket).busy = true :=
    (s.entrance_undisturbed ticket).busy_eq.trans h.busy
  cases hstarts with
  | refused busy told calm => exact ⟨told.busy_eq.trans hentrance, h.outstanding⟩
  | blank free told => exact absurd (h.busy.symm.trans free) (by simp)
  | raised rough told => exact ⟨told.busy_eq, h.outstanding⟩
  | running free told asks => exact absurd (h.busy.symm.trans free) (by simp)

theorem Stuck.turn (h : s.Stuck) (t : Turn) : (s.turn t).Stuck := by
  obtain ⟨hwaiting, -⟩ := List.append_eq_nil_iff.mp h.outstanding
  cases t with
  | complete place done => simpa [Session.turn, hwaiting] using h
  | move m =>
      rw [Session.turn]
      cases hworking : s.working m with
      | none =>
          have haround := move_around hworking
          exact ⟨haround.undisturbed.busy_eq.trans h.busy,
            (h.outstanding ▸ haround.outstanding).eq_nil⟩
      | some job =>
          obtain ⟨rest, hrest, hmove⟩ := move_working hworking
          obtain ⟨hcall, hnone⟩ :=
            List.append_eq_nil_iff.mp (h.outstanding ▸ outstanding_perm hrest).eq_nil
          cases job with
          | resume call reply => simp [Job.call?] at hcall
          | commit ticket text origin =>
              rw [hmove]
              have hstuck : ({ s with ready := rest } : Session).Stuck := ⟨h.busy, hnone⟩
              exact hstuck.starts (start_starts ..)

theorem Stuck.play (h : s.Stuck) (turns : List Turn) : (s.play turns).Stuck := by
  induction turns using List.reverseRecOn with
  | nil => exact h
  | append_singleton front t ih =>
      rw [play_snoc]
      exact ih.turn t

/-- A commit whose beginning cannot be told ends there, with its flag up. -/
theorem start_fails (hfree : s.channel.busy = false) (hgiven : Text.trim (text.getD "") ≠ "")
    (hfails : s.channel.listener.Fails) (ticket : Ticket) (origin : String) :
    ∃ fault c, c.busy = true ∧
      s.start ticket text origin = (s.withChannel c).finish ticket (.error fault) := by
  have hentrance := (s.entrance_undisturbed ticket).busy_eq.trans hfree
  rw [← s.entrance_listener ticket] at hfails
  have hfails' : Listener.Fails
      ({ s.entrance ticket with busy := true, phase := .committed } : Channel).listener := hfails
  obtain ⟨fault, hfault⟩ := Channel.tell_fails hfails'
    ("Processing: \"" ++ Text.trim (text.getD "") ++ "\"")
    (Start.running ⟨Text.trim (text.getD ""), origin⟩ (s.entrance ticket).generation)
  unfold start
  rw [Channel.begin_eq_tell hentrance hgiven, hfault]
  refine ⟨fault, _, ?_, rfl⟩
  exact Channel.tell_busy ..

theorem Stumbles.stuck (h : s.Stumbles t) (hnone : s.outstanding = []) : (s.turn t).Stuck := by
  obtain ⟨m, ticket, text, origin, rfl, hworking, hfree, hgiven, hfails⟩ := h
  obtain ⟨rest, hrest, hmove⟩ := move_working hworking
  obtain ⟨-, hnone'⟩ := List.append_eq_nil_iff.mp (hnone ▸ outstanding_perm hrest).eq_nil
  obtain ⟨fault, c, hbusy, hstart⟩ :=
    start_fails (s := { s with ready := rest }) hfree hgiven hfails ticket origin
  rw [Session.turn, hmove, work, hstart]
  exact ⟨hbusy, hnone'⟩

/-- **The first commit whose beginning cannot be told is the last one**: from then on the channel
is busy for good, with no call to free it. -/
theorem Smooth.stuck (hfresh : s.Fresh) (hsmooth : s.Smooth turns)
    (h : (s.play turns).Stumbles t) (later : List Turn) :
    (((s.play turns).turn t).play later).Stuck := by
  have hfree : (s.play turns).channel.busy = false := by
    obtain ⟨-, -, -, -, -, -, hfree, -⟩ := h
    exact hfree
  exact (h.stuck ((hsmooth.single hfresh).outstanding_nil hfree)).play later

end Session

end CommandBar
