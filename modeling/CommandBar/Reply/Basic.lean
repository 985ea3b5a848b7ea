/-
What comes back from the oracle.

An oracle that is asked for a command sends something back, which should be a
text, or reports an error of the pipeline, or fails for a reason of its own.
-/
import CommandBar.Error
import CommandBar.Json.Value

namespace CommandBar

/-- What an oracle does with a query. -/
inductive Reply
  /-- It sends a value back. -/
  | sent (value : Json.Value)
  /-- It reports an error of the pipeline. -/
  | refused (error : CommandError)
  /-- It fails under a name and with words of its own. -/
  | crashed (name message : String)
deriving DecidableEq

/-- The value that is sent back, or what stops the query. -/
def Reply.value : Reply → Except Fault Json.Value
  | .sent v => .ok v
  | .refused e => .error (.command e)
  | .crashed name message => .error (.crash name message)

end CommandBar
