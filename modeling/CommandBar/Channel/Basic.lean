/-
The input channel.

A channel takes typed and spoken commands, one at a time: a commit while another
is under way is refused.  It goes through four phases.

  * Starting the microphone takes it from idle to listening, and an interim
    transcript from there to transcribing.
  * Stopping, an error and the end of the capture take it back to idle.
  * A commit takes it to committed, and the end of that commit back to idle.

Closing the interface and opening it again each begin a new generation.  A commit
belongs to the generation in which it began, and its result counts only while
that one lasts.

The steps are functions.  Those that tell the user something do so last, so a
listener that fails leaves behind everything else the step does.
-/
import CommandBar.Channel.Voice
import CommandBar.Dispatcher
import CommandBar.Text.Blank

namespace CommandBar

/-- Where a channel is between two commands. -/
inductive Phase
  | idle
  | listening
  | transcribing
  | committed
deriving Repr, DecidableEq

namespace Phase

/-- The name of the phase. -/
def name : Phase → String
  | .idle => "idle"
  | .listening => "listening"
  | .transcribing => "transcribing"
  | .committed => "committed"

/-- Whether the microphone is in use. -/
def isCapturing : Phase → Bool
  | .listening | .transcribing => true
  | .idle | .committed => false

end Phase

/-- Who hears what the user is told. -/
structure Listener where
  /-- Whether nobody does. -/
  absent : Bool := false
  /-- How the next tellings end, in turn; after these every one succeeds. -/
  faults : List (Option Fault) := []
deriving DecidableEq

/-- A channel. -/
structure Channel where
  microphone : Option Microphone := none
  listener : Listener := {}
  phase : Phase := .idle
  /-- Whether a commit is under way. -/
  busy : Bool := false
  isOpen : Bool := true
  /-- The latest transcript. -/
  draft : String := ""
  lastFeedback : Option String := none
  generation : Nat := 0
  /-- What the listener was told, in order. -/
  told : List String := []
deriving DecidableEq

/-- How a commit begins. -/
inductive Start
  /-- It is refused, with that outcome. -/
  | refused (outcome : Outcome)
  /-- Its utterance goes to the interpreter, in that generation. -/
  | running (utterance : Utterance) (generation : Nat)
deriving DecidableEq

namespace Channel

/-- What the user is told when a command is under way. -/
def busyFeedback : String :=
  "Still working on your last command. Please wait a moment."

/-- Tells the user something and then returns a value. -/
def tell {α : Type} (c : Channel) (text : String) (value : α) : Except Fault α × Channel :=
  let noted := { c with lastFeedback := some text }
  if c.listener.absent then (.ok value, noted)
  else
    let heard := { noted with told := c.told ++ [text] }
    match c.listener.faults with
    | [] => (.ok value, heard)
    | fault? :: rest =>
      let next := { heard with listener := { c.listener with faults := rest } }
      match fault? with
      | none => (.ok value, next)
      | some fault => (.error fault, next)

/-! ### The interface -/

/-- Opens the interface, in a new generation if it was closed. -/
def reopen (c : Channel) : Channel :=
  if c.isOpen then c else { c with isOpen := true, generation := c.generation + 1 }

/-- Stops the microphone if it is in use. -/
def stopListening (c : Channel) : Channel :=
  if c.phase.isCapturing then
    { c with
      phase := .idle
      microphone := c.microphone.map fun m => { m with stops := m.stops + 1 } }
  else c

/-- Closes the interface.  A commit under way goes on, but for nobody. -/
def close (c : Channel) : Channel :=
  { ({ c with isOpen := false, generation := c.generation + 1 } : Channel).stopListening with
    draft := "", lastFeedback := none }

/-! ### The microphone -/

/-- Starts the microphone, or stops it if it is in use; says whether it runs now. -/
def startListening (c : Channel) : Except Fault Bool × Channel :=
  match c.microphone with
  | none => c.tell "Voice input is not available." false
  | some m =>
    if c.busy then c.tell busyFeedback false
    else if c.phase.isCapturing then (.ok false, c.stopListening)
    else
      match m.refusal with
      | some why =>
        ({ c with phase := .idle, draft := "" } : Channel).tell
          ("Could not start voice recognition. " ++ why) false
      | none =>
        ({ c with
          phase := .listening, draft := ""
          microphone := some { m with starts := m.starts + 1 } } : Channel).tell
          "Listening..." true

/-- Takes a report of the microphone, unless it is not in use.  A final transcript is given back
to be committed later; until then the channel stays in its phase. -/
def hear (c : Channel) (event : VoiceEvent) : Except Fault (Option String) × Channel :=
  if c.phase.isCapturing then
    match event with
    | .interim transcript => (.ok none, { c with phase := .transcribing, draft := transcript })
    | .final transcript => (.ok (some transcript), { c with draft := transcript })
    | .error code message =>
      ({ c with phase := .idle } : Channel).tell (VoiceEvent.errorText code message) none
    | .ended => (.ok none, { c with phase := .idle })
    | .unknown => (.ok none, c)
  else (.ok none, c)

/-! ### Commits -/

/-- Begins a commit. -/
def begin (c : Channel) (text : Option String) (origin : String) : Except Fault Start × Channel :=
  if c.busy then c.tell busyFeedback (.refused (.failed .input busyFeedback))
  else
    let trimmed := Text.trim (text.getD "")
    if trimmed = "" then
      let feedback := ErrorKind.input.defaultFeedback
      ({ c with phase := .idle } : Channel).tell feedback (.refused (.failed .input feedback))
    else
      ({ c with busy := true, phase := .committed } : Channel).tell
        ("Processing: \"" ++ trimmed ++ "\"") (.running ⟨trimmed, origin⟩ c.generation)

/-- Whether the interface has been open ever since that generation. -/
def isLive (c : Channel) (generation : Nat) : Bool :=
  c.isOpen && c.generation == generation

/-- Ends a commit of that generation with what the interpreter made of it. -/
def finish (c : Channel) (generation : Nat) (result : Except Fault (Option Outcome)) :
    Except Fault (Option Outcome) × Channel :=
  let next := { c with busy := false, phase := .idle, draft := "" }
  match result with
  | .error fault => (.error fault, next)
  | .ok none => (.ok none, next)
  | .ok (some outcome) =>
    if c.isLive generation then next.tell outcome.feedback (some outcome) else (.ok none, next)

/-! ### What a commit leaves behind

Once the interpreter is done with a commit the channel is free again, whatever the listener does.
-/

@[simp] theorem tell_phase {α : Type} (c : Channel) (text : String) (value : α) :
    (c.tell text value).2.phase = c.phase := by
  unfold tell
  split
  · rfl
  · split
    · rfl
    · split <;> rfl

@[simp] theorem tell_busy {α : Type} (c : Channel) (text : String) (value : α) :
    (c.tell text value).2.busy = c.busy := by
  unfold tell
  split
  · rfl
  · split
    · rfl
    · split <;> rfl

theorem finish_busy (c : Channel) (generation : Nat) (result : Except Fault (Option Outcome)) :
    (c.finish generation result).2.busy = false := by
  unfold finish
  split
  · rfl
  · rfl
  · split
    · simp
    · rfl

theorem finish_phase (c : Channel) (generation : Nat) (result : Except Fault (Option Outcome)) :
    (c.finish generation result).2.phase = .idle := by
  unfold finish
  split
  · rfl
  · rfl
  · split
    · simp
    · rfl

end Channel

end CommandBar
