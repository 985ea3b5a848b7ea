/-
What a listener that fails can change.

Telling the user something can go wrong, and then the step that tells it stops there.
Every step tells last, so by then it has done the rest, and the only thing that is lost
is what it would have given back: whether the microphone runs, or how a commit has ended.

The two runs that are compared here are the one with the listener and the one with nobody
to hear (`hushed`).  They are the same turn by turn, up to what is told and how commits
end, except where a commit begins: there the telling stands before the query, and a
listener that fails keeps the commit from making it.
-/
import CommandBar.Proofs.SingleFlight

namespace CommandBar

/-- The next telling fails. -/
def Listener.Fails (l : Listener) : Prop :=
  l.absent = false ∧ ∃ fault rest, l.faults = some fault :: rest

namespace Channel

variable {c : Channel}

/-- The channel with nobody to hear, and nothing told. -/
def hushed (c : Channel) : Channel :=
  { c with listener := { absent := true }, told := [] }

/-! ### Telling -/

/-- Telling leaves the text behind, whoever hears it. -/
theorem tell_hushed {α : Type} (c : Channel) (text : String) (value : α) :
    (c.tell text value).2.hushed = { c.hushed with lastFeedback := some text } := by
  unfold tell
  split
  · rfl
  · split
    · rfl
    · split <;> rfl

/-- With nobody to hear it goes through, and does the same. -/
theorem hushed_tell {α : Type} (c : Channel) (text : String) (value : α) :
    c.hushed.tell text value = (.ok value, (c.tell text value).2.hushed) := by
  rw [tell_hushed]
  rfl

theorem tell_result {α : Type} (c : Channel) (text : String) (value : α) :
    (c.tell text value).1 = .ok value ∨ ∃ fault, (c.tell text value).1 = .error fault := by
  obtain ⟨c', -, h | ⟨-, fault, h⟩⟩ := tell_cases c text value
  · exact Or.inl (congrArg Prod.fst h)
  · exact Or.inr ⟨fault, congrArg Prod.fst h⟩

theorem tell_succeeds {α : Type} (h : ¬ c.listener.Fails) (text : String) (value : α) :
    (c.tell text value).1 = .ok value := by
  unfold tell
  split
  · rfl
  · next habsent =>
      split
      · rfl
      · next fault? rest hfaults =>
          cases fault? with
          | none => rfl
          | some fault => exact absurd ⟨by simpa using habsent, fault, rest, hfaults⟩ h

theorem tell_fails {α : Type} (h : c.listener.Fails) (text : String) (value : α) :
    ∃ fault, c.tell text value = (.error fault, (c.tell text value).2) := by
  obtain ⟨habsent, fault, rest, hfaults⟩ := h
  exact ⟨fault, by simp [tell, habsent, hfaults]⟩

/-! ### Between commits -/

theorem stopListening_hushed (c : Channel) : c.hushed.stopListening = c.stopListening.hushed := by
  unfold stopListening
  have hphase : c.hushed.phase = c.phase := rfl
  rw [hphase]
  split <;> rfl

theorem reopen_hushed (c : Channel) : c.hushed.reopen = c.reopen.hushed := by
  unfold reopen
  have hopen : c.hushed.isOpen = c.isOpen := rfl
  rw [hopen]
  split <;> rfl

theorem close_hushed (c : Channel) : c.hushed.close = c.close.hushed := by
  have hstop := stopListening_hushed { c with isOpen := false, generation := c.generation + 1 }
  unfold close
  exact congrArg (fun c' : Channel => { c' with draft := "", lastFeedback := none }) hstop

theorem startListening_hushed (c : Channel) :
    c.hushed.startListening.2 = c.startListening.2.hushed := by
  have hmicrophone : c.hushed.microphone = c.microphone := rfl
  have hbusy : c.hushed.busy = c.busy := rfl
  have hphase : c.hushed.phase = c.phase := rfl
  unfold startListening
  rw [hmicrophone, hbusy, hphase, stopListening_hushed]
  split
  · exact congrArg Prod.snd (hushed_tell c _ _)
  · split
    · exact congrArg Prod.snd (hushed_tell c _ _)
    · split
      · rfl
      · split
        · exact congrArg Prod.snd (hushed_tell { c with phase := .idle, draft := "" } _ _)
        · next m _ _ _ _ _ =>
            exact congrArg Prod.snd (hushed_tell { c with
              phase := .listening, draft := ""
              microphone := some { m with starts := m.starts + 1 } } _ _)

/-- The same is heard, but for an error whose telling fails. -/
theorem hear_hushed (c : Channel) (event : VoiceEvent) :
    c.hushed.hear event = (.ok ((c.hear event).1.toOption.getD none), (c.hear event).2.hushed) := by
  have hphase : c.hushed.phase = c.phase := rfl
  unfold hear
  rw [hphase]
  split
  · cases event with
    | error code message =>
        refine (hushed_tell { c with phase := .idle } _ _).trans ?_
        rcases tell_result { c with phase := .idle } (VoiceEvent.errorText code message)
          (none : Option String) with h | ⟨fault, h⟩
        · simp only [h, Except.toOption, Option.getD_some]
        · simp only [h, Except.toOption, Option.getD_none]
    | interim | final | ended | unknown => rfl
  · rfl

/-! ### Commits -/

theorem finish_hushed (c : Channel) (generation : Nat) (result : Except Fault (Option Outcome)) :
    (c.hushed.finish generation result).2 = (c.finish generation result).2.hushed := by
  have hlive : c.hushed.isLive generation = c.isLive generation := rfl
  unfold finish
  rw [hlive]
  split
  · rfl
  · rfl
  · next outcome =>
      split
      · exact congrArg Prod.snd
          (hushed_tell { c with busy := false, phase := .idle, draft := "" } outcome.feedback _)
      · rfl

/-- A commit that goes further is told after it has raised the flag. -/
theorem begin_eq_tell {text : Option String} (hfree : c.busy = false)
    (hgiven : Text.trim (text.getD "") ≠ "") (origin : String) :
    c.begin text origin =
      ({ c with busy := true, phase := .committed } : Channel).tell
        ("Processing: \"" ++ Text.trim (text.getD "") ++ "\"")
        (.running ⟨Text.trim (text.getD ""), origin⟩ c.generation) := by
  unfold begin
  rw [if_neg (by simp [hfree])]
  exact if_neg hgiven

/-- The result is that start, or else one is refused whose telling fails. -/
def Amounts (result : Except Fault Start) (start : Start) : Prop :=
  result = .ok start ∨ ∃ fault outcome, result = .error fault ∧ start = .refused outcome

theorem tell_amounts (c : Channel) (text : String) (outcome : Outcome) :
    Amounts (c.tell text (.refused outcome)).1 (.refused outcome) := by
  rcases tell_result c text (Start.refused outcome) with h | ⟨fault, h⟩
  · exact Or.inl h
  · exact Or.inr ⟨fault, outcome, h, rfl⟩

/-- A commit begins in the same way, unless it is one that goes further and its first telling
fails.  Where one is turned away, it is all the same whether the telling fails. -/
theorem begin_hushed (text : Option String) (origin : String)
    (h : c.busy = false → Text.trim (text.getD "") ≠ "" → ¬ c.listener.Fails) :
    ∃ start, c.hushed.begin text origin = (.ok start, (c.begin text origin).2.hushed) ∧
      Amounts (c.begin text origin).1 start := by
  by_cases hbusy : c.busy = true
  · have hbusy' : c.hushed.busy = true := hbusy
    simp only [begin, if_pos hbusy, if_pos hbusy']
    exact ⟨_, hushed_tell c _ _, tell_amounts ..⟩
  · have hfree : c.busy = false := by simpa using hbusy
    by_cases hblank : Text.trim (text.getD "") = ""
    · have hfree' : ¬ c.hushed.busy = true := hbusy
      simp only [begin, if_neg hbusy, if_neg hfree', if_pos hblank]
      exact ⟨_, hushed_tell { c with phase := .idle } _ _, tell_amounts ..⟩
    · have hhears : ¬ ({ c with busy := true, phase := .committed } : Channel).listener.Fails :=
        h hfree hblank
      have hfree' : c.hushed.busy = false := hfree
      rw [begin_eq_tell hfree hblank, begin_eq_tell hfree' hblank]
      exact ⟨_, hushed_tell { c with busy := true, phase := .committed } _ _,
        Or.inl (tell_succeeds hhears _ _)⟩

end Channel

namespace Session

variable {s : Session} {t : Turn} {ticket : Ticket} {text : Option String} {origin : String}

/-- The session with nobody to hear, nothing told, and of the commits that have ended only which
they are. -/
def hushed (s : Session) : Session :=
  { s with
    channel := s.channel.hushed, notes := []
    finished := s.finished.map fun ended => (ended.1, .ok none) }

theorem hushed_hushed (s : Session) : s.hushed.hushed = s.hushed := by
  simp [hushed, Channel.hushed]

theorem withChannel_hushed {c c' : Channel} (h : c' = c.hushed) :
    (s.hushed.withChannel c').hushed = (s.withChannel c).hushed := by
  rw [h]
  exact hushed_hushed (s.withChannel c)

/-- It does not matter how a commit has ended. -/
theorem finish_hushed (s : Session) (ticket : Ticket)
    (result result' : Except Fault (Option Outcome)) :
    (s.hushed.finish ticket result).hushed = (s.finish ticket result').hushed := by
  simp [hushed, finish, Channel.hushed]

/-! ### Jobs -/

theorem complete_hushed (s : Session) (call : Call) (done : Interpretation) :
    (s.hushed.complete call done).hushed = (s.complete call done).hushed := by
  have hchannel : s.hushed.channel = s.channel.hushed := rfl
  unfold complete
  dsimp only
  rw [hchannel, Channel.finish_hushed]
  simp [hushed, withChannel, finish, Channel.hushed]

theorem resume_hushed (s : Session) (call : Call) (reply : Reply) :
    (s.hushed.resume call reply).hushed = (s.resume call reply).hushed :=
  complete_hushed s call _

theorem ask_hushed (s : Session) (call : Call) :
    (s.hushed.ask call).hushed = (s.ask call).hushed := by
  have hquery : s.hushed.interpreter.query? call.utterance s.hushed.host.widgets =
      s.interpreter.query? call.utterance s.host.widgets := rfl
  have hreplies : s.hushed.replies = s.replies := rfl
  have hstanding : s.hushed.standing = s.standing := rfl
  unfold ask
  rw [hquery, hreplies, hstanding]
  split
  · exact complete_hushed s call _
  · next query _ =>
      dsimp only
      split
      · next reply rest _ =>
          exact resume_hushed { s with queries := s.queries ++ [query], replies := rest } call reply
      · next reply _ _ =>
          exact resume_hushed { s with queries := s.queries ++ [query] } call reply
      · exact hushed_hushed
          { s with queries := s.queries ++ [query], waiting := s.waiting ++ [call] }

theorem entrance_hushed (s : Session) (ticket : Ticket) :
    s.hushed.entrance ticket = (s.entrance ticket).hushed := by
  unfold entrance
  split
  · rfl
  · exact Channel.stopListening_hushed _

theorem start_hushed
    (h : s.channel.busy = false → Text.trim (text.getD "") ≠ "" → ¬ s.channel.listener.Fails) :
    (s.hushed.start ticket text origin).hushed = (s.start ticket text origin).hushed := by
  have hbusy := (s.entrance_undisturbed ticket).busy_eq
  have hlistener := s.entrance_listener ticket
  rw [← hbusy, ← hlistener] at h
  obtain ⟨first, hhushed, hfirst⟩ := Channel.begin_hushed text origin h
  unfold start
  rw [entrance_hushed, hhushed]
  generalize (s.entrance ticket).begin text origin = began at hfirst
  obtain ⟨result, c⟩ := began
  rcases hfirst with hresult | ⟨fault, outcome, hresult, rfl⟩
  · obtain rfl : result = .ok first := hresult
    cases first with
    | refused outcome => exact finish_hushed (s.withChannel c) ticket _ _
    | running utterance generation => exact ask_hushed (s.withChannel c) _
  · obtain rfl : result = .error fault := hresult
    exact finish_hushed (s.withChannel c) ticket _ _

/-! ### Turns -/

/-- A commit begins that goes further, and the telling that it begins with fails. -/
def Stumbles (s : Session) (t : Turn) : Prop :=
  ∃ m ticket text origin, t = .move m ∧ s.working m = some (.commit ticket text origin) ∧
    s.channel.busy = false ∧ Text.trim (text.getD "") ≠ "" ∧ s.channel.listener.Fails

theorem hear_hushed (s : Session) (number : Nat) (event : VoiceEvent) :
    (s.hushed.hear number event).2.hushed = (s.hear number event).2.hushed := by
  have hchannel : s.hushed.channel = s.channel.hushed := rfl
  unfold hear
  rw [hchannel, Channel.hear_hushed]
  rcases s.channel.hear event with ⟨fault | heard, c⟩
  · exact withChannel_hushed rfl
  · cases heard with
    | none => exact withChannel_hushed rfl
    | some transcript =>
        exact hushed_hushed { s.withChannel c with
          ready := s.ready ++ [.commit ⟨number, true⟩ (some transcript) "voice"] }

theorem take_hushed (s : Session) (reply : Reply) :
    (s.hushed.take reply).hushed = (s.take reply).hushed := by
  have hwaiting : s.hushed.waiting = s.waiting := rfl
  unfold take
  rw [hwaiting]
  split
  · next call rest _ =>
      exact hushed_hushed { s with waiting := rest, ready := s.ready ++ [.resume call reply] }
  · exact hushed_hushed { s with replies := s.replies ++ [reply] }

theorem runAt_hushed (place : Nat) (h : ∀ ticket text origin,
      s.ready[place]? = some (.commit ticket text origin) → s.channel.busy = false →
      Text.trim (text.getD "") ≠ "" → ¬ s.channel.listener.Fails) :
    (s.hushed.runAt place).hushed = (s.runAt place).hushed := by
  have hready : s.hushed.ready = s.ready := rfl
  unfold runAt
  rw [hready]
  split
  · exact hushed_hushed s
  · next job hjob =>
      cases job with
      | commit ticket text origin =>
          exact start_hushed (s := { s with ready := s.ready.eraseIdx place })
            (h ticket text origin hjob)
      | resume call reply =>
          exact resume_hushed { s with ready := s.ready.eraseIdx place } call reply

/-- **A listener that fails changes nothing but what is told and how commits end, unless it fails
as a commit begins.** -/
theorem turn_hushed (h : ¬ s.Stumbles t) : (s.hushed.turn t).hushed = (s.turn t).hushed := by
  cases t with
  | complete place done =>
      have hwaiting : s.hushed.waiting = s.waiting := rfl
      simp only [turn]
      rw [hwaiting]
      split
      · exact hushed_hushed s
      · next call _ =>
          exact complete_hushed { s with waiting := s.waiting.eraseIdx place } call done
  | move m =>
      have hjob : ∀ {place}, s.working m = s.ready[place]? →
          (s.hushed.runAt place).hushed = (s.runAt place).hushed := fun hworking =>
        runAt_hushed _ fun ticket text origin hcommit hfree hgiven hfails =>
          h ⟨m, ticket, text, origin, rfl, hworking.trans hcommit, hfree, hgiven, hfails⟩
      simp only [turn]
      cases m with
      | run place => exact hjob rfl
      | device refusal =>
          exact hushed_hushed ({ s with
            channel.microphone := s.channel.microphone.map fun m => { m with refusal } } : Session)
      | event event =>
          cases event with
          | submit number text origin =>
              exact hushed_hushed
                { s with ready := s.ready ++ [.commit ⟨number, false⟩ text origin] }
          | reply reply => exact take_hushed s reply
          | voice number event => exact hear_hushed s number event
          | reopen => exact withChannel_hushed (Channel.reopen_hushed _)
          | close => exact withChannel_hushed (Channel.close_hushed _)
          | startListening => exact withChannel_hushed (Channel.startListening_hushed _)
          | stopListening => exact withChannel_hushed (Channel.stopListening_hushed _)
          | change change => exact hushed_hushed { s with host := (s.host.perform change).2 }
          | run =>
              simp only [move, step, runNext_eq_runAt]
              exact hjob rfl

end Session

end CommandBar
