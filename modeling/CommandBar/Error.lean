/-
What can go wrong with a command.

A command error has a kind, a detail for the log and a feedback for the user;
the feedback falls back to the one that belongs to the kind.  A fault is anything
that stops an operation: a command error, a failure of a collaborator (the
oracle, a dashboard hook, the microphone) that is passed on under its own name,
or one of the few conditions that the pipeline does not turn into an error.
-/
import CommandBar.Text.Quoted

namespace CommandBar

/-- The kind of a command error. -/
inductive ErrorKind
  | command
  | input
  | modelUnavailable
  | malformedEnvelope
  | malformedResponse
  | unknownAction
  | target
  | rejected
deriving Repr, DecidableEq

namespace ErrorKind

/-- The name under which results and the log report the kind. -/
def name : ErrorKind → String
  | .command => "CommandError"
  | .input => "InputError"
  | .modelUnavailable => "ModelUnavailable"
  | .malformedEnvelope => "ModelMalformedEnvelope"
  | .malformedResponse => "MalformedResponse"
  | .unknownAction => "UnknownAction"
  | .target => "AmbiguousOrMissingTarget"
  | .rejected => "DispatchRejected"

/-- What the user sees when an error of the kind brings no feedback of its own. -/
def defaultFeedback : ErrorKind → String
  | .command => "Sorry, something went wrong with that command."
  | .input => "Please type or say a command first."
  | .modelUnavailable => "Sorry, I couldn't reach the assistant. Please try again."
  | .malformedEnvelope =>
    "The assistant sent back an unexpected response. Please try again."
  | .malformedResponse =>
    "Sorry, I couldn't make sense of the assistant's answer. Please rephrase."
  | .unknownAction => "Sorry, I don't know how to do that on the dashboard."
  | .target => "I couldn't tell which widget you meant. Please be more specific."
  | .rejected => "The dashboard couldn't apply that change."

/-- Every kind. -/
def all : List ErrorKind :=
  [.command, .input, .modelUnavailable, .malformedEnvelope, .malformedResponse, .unknownAction,
    .target, .rejected]

/-- The kind of that name. -/
def ofName? (s : String) : Option ErrorKind :=
  all.find? (·.name == s)

end ErrorKind

/-- An error of the command pipeline. -/
structure CommandError where
  kind : ErrorKind
  detail : String
  feedback : String
deriving Repr, DecidableEq

namespace CommandError

/-- An error with a feedback of its own; an empty one does not count. -/
def withFeedback (kind : ErrorKind) (detail feedback : String) : CommandError :=
  ⟨kind, detail, if feedback = "" then kind.defaultFeedback else feedback⟩

/-- An error with the feedback of its kind. -/
def ofKind (kind : ErrorKind) (detail : String) : CommandError :=
  ⟨kind, detail, kind.defaultFeedback⟩

/-- What the error says: its detail, or the feedback of its kind if it has none. -/
def text (e : CommandError) : String :=
  if e.detail = "" then e.kind.defaultFeedback else e.detail

/-- What the log says of the error: its detail, or its feedback if it has none. -/
def note (e : CommandError) : String :=
  if e.detail = "" then e.feedback else e.detail

end CommandError

/-- What stops an operation. -/
inductive Fault
  /-- An error of the pipeline. -/
  | command (error : CommandError)
  /-- A failure of a collaborator, under its own name and with its own words. -/
  | crash (name message : String)
  /-- A template word in which a bracket is never closed. -/
  | unbalanced (word : String)
  /-- An action whose handler is unknown or taken. -/
  | sharedHandler (action handler : String)
  /-- An integer that no double can hold. -/
  | numberTooLarge
  /-- A command for one widget that names none. -/
  | noTarget
  /-- A change of settings without settings. -/
  | noSettings
  /-- A command that is handed to the table of handlers. -/
  | tableAsHandler
deriving Repr, DecidableEq

/-- What the fault says. -/
def Fault.text : Fault → String
  | .command e => e.text
  | .crash _ message => message
  | .unbalanced word => "unbalanced brackets in template: " ++ Text.quoted word
  | .sharedHandler action handler =>
    action ++ " needs its own handler, got " ++ Text.quoted handler
  | .numberTooLarge => "int too large to convert to float"
  | .noTarget => "'NoneType' object has no attribute 'id'"
  | .noSettings => "'NoneType' object is not iterable"
  | .tableAsHandler => "'dict' object is not callable"

end CommandBar
