/-
The command line.

Without arguments the program runs the console over standard input and output,
and appends to a log file beside it.  `-parse` shows the command that a text would
become, and `-telegram` takes commands from a chat.  No oracle is connected here,
so every query is answered with an error; what the console does with a reply is
in `CommandBar.Console`.
-/
import CommandBar.Chat
import CommandBar.Console
import Std.Time

namespace CommandBar

namespace CommandLine

/-- The reply where no oracle is connected. -/
def unconnected : Reply :=
  .refused (.ofKind .modelUnavailable "no oracle is connected")

/-- Where the log is kept. -/
def logFile : String := "commandbar.log"

/-- The time, as the log writes it. -/
def now : IO String := do
  let time ← Std.Time.PlainDateTime.now
  pure (time.format "uuuu-MM-dd HH:mm:ss")

/-- Appends to the log; a log that cannot be written is left alone. -/
def appendLog (text : String) : IO Unit := do
  if text != "" then
    try
      let handle ← IO.FS.Handle.mk logFile .append
      handle.putStr text
    catch _ => pure ()

/-- Shows some text at once. -/
def display (text : String) : IO Unit := do
  let output ← IO.getStdout
  output.putStr text
  output.flush

/-- Reads and interprets lines until something ends the run. -/
partial def interact (s : Session) : IO UInt32 := do
  display Console.ready
  let line ← (← IO.getStdin).getLine
  if line = "" || Console.isLeaving line then pure 0
  else
    let text := if line.endsWith "\n" then (line.dropEnd 1).toString else line
    let (ended, output, next) := Console.turn { s with time := ← now, log := "" } text
    display output
    appendLog next.log
    match ended with
    | .ok _ => interact next
    | .error fault =>
      IO.eprintln fault.text
      pure 1

/-- Does what it is asked to do. -/
def perform : Console.Task → IO UInt32
  | .interact => do
    display Console.greeting
    interact { host := { dashboard := {} }, time := ← now, standing := some unconnected }
  | .inspect text => do
    let (output, fault?) := Console.inspection text unconnected
    display output
    match fault? with
    | none => pure 0
    | some fault =>
      IO.eprintln fault.text
      pure 1
  | .chat => do
    display (Chat.disabled ++ "\n")
    pure 0

end CommandLine

end CommandBar

/-- Does what the arguments ask for. -/
def main (arguments : List String) : IO UInt32 :=
  CommandBar.CommandLine.perform (CommandBar.Console.Task.ofArguments arguments)
