/-
The object in a reply.

A reply has to be the text of one JSON object, once the fences around it are
gone.  Anything else is a malformed response, which says what was wrong.
-/
import CommandBar.Error
import CommandBar.Json.Reader
import CommandBar.Reply.Fence

namespace CommandBar

namespace Reply

/-- The object that a text without fences holds. -/
def decode (text : String) : Except CommandError (Fields Json.Value) :=
  match Json.read text with
  | .error why => .error (.ofKind .malformedResponse ("not valid JSON: " ++ why))
  | .ok (.obj members) => .ok members
  | .ok other =>
    .error (.ofKind .malformedResponse ("expected a JSON object, got " ++ other.kindName))

/-- The object that a reply holds. -/
def payload (raw : String) : Except CommandError (Fields Json.Value) :=
  decode (unfence raw)

end Reply

end CommandBar
