/-
Taking commands from a chat.

A message is submitted like a typed command and answered with what the user is
told.  A message without text is ignored.  The dashboard can be asked for, too.
-/
import CommandBar.Session

namespace CommandBar

namespace Chat

/-- A message, and what is known of its sender. -/
structure Message where
  text : Option String := none
  firstName : Option String := none
  userName : Option String := none
deriving Repr, DecidableEq

/-- How the sender is called. -/
def Message.sender (m : Message) : String :=
  if isGiven m.firstName then m.firstName.getD ""
  else if isGiven m.userName then m.userName.getD ""
  else "unknown"

/-- What is printed when there is no account to receive messages with. -/
def disabled : String :=
  "No telegram_credentials.py, Telegram disabled."

/-- Prints a line. -/
def print (s : Session) (line : String) : Session :=
  { s with notes := s.notes ++ [.printed line] }

/-- Takes a message and gives the answers to it. -/
def receive (s : Session) (m : Message) : Except Fault (List String) × Session :=
  if isGiven m.text then
    let text := m.text.getD ""
    let announced := print s ("  [Telegram:" ++ m.sender ++ "] \"" ++ text ++ "\"")
    let after := ({ announced with finished := [] } : Session).submit text
    match after.finished with
    | (_, .error fault) :: _ => (.error fault, after)
    | (_, .ok (some outcome)) :: _ =>
      (.ok [outcome.feedback], print after ("  Response: \"" ++ outcome.feedback ++ "\""))
    | _ => (.ok [], after)
  else (.ok [], s)

/-- The answer to who asks for the dashboard. -/
def dashboard (s : Session) : String :=
  s.host.dashboard.describe

end Chat

end CommandBar
