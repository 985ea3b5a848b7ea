/-
Voice capture.

A microphone is started and stopped, and may refuse to start.  While it runs it
reports transcripts, errors and its own end.
-/

namespace CommandBar

/-- A microphone, and how often it was started and stopped. -/
structure Microphone where
  /-- The words with which it refuses to start. -/
  refusal : Option String := none
  starts : Nat := 0
  stops : Nat := 0
deriving Repr, DecidableEq

/-- What a microphone reports. -/
inductive VoiceEvent
  /-- What it has understood so far. -/
  | interim (transcript : String)
  /-- What it has understood in the end. -/
  | final (transcript : String)
  /-- That it failed. -/
  | error (code message : String)
  /-- That it stopped by itself. -/
  | ended
  /-- Something else. -/
  | unknown
deriving Repr, DecidableEq

namespace VoiceEvent

/-- What the user is told about an error. -/
def errorText (code message : String) : String :=
  match code with
  | "no-speech" => "No speech detected. Try again."
  | "audio-capture" => "Microphone error. Check permissions."
  | "not-allowed" => "Mic access denied. Enable it in your settings."
  | _ => "Speech error: " ++ code ++ "." ++ if message = "" then "" else " " ++ message

end VoiceEvent

end CommandBar
