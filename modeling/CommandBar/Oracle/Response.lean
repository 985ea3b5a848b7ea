/-
Responses of a language model.

A response is a list of blocks, and an oracle looks for the first block that
settles what it sends on.  The calls of the tool come first: the input of the first
call that has an object for its input, written as JSON text, so that it looks like
what any other oracle sends.  Without such a call it is the first text that is not
blank.  A search that reaches a block without the part that it looks for, or a text
block that holds something else, ends there and fails.
-/
import CommandBar.Json.Writer
import CommandBar.Reply.Basic
import CommandBar.Text.Blank

namespace CommandBar

namespace Oracle

open Json

/-- A block of a response. -/
inductive Block
  /-- A call of the tool, with its input if it has one. -/
  | toolUse (input : Option Value)
  /-- A text block, with what it holds, which should be a text. -/
  | text (held : Option Value)
  /-- Anything else. -/
  | other
deriving DecidableEq

/-- A response. -/
structure Response where
  content : List Block
  /-- Why the model stopped. -/
  stopReason : Value := .null
  /-- What the client calls a block when it speaks of its kind. -/
  blockKind : String
deriving DecidableEq

namespace Block

/-- Reads a block. -/
def ofValue : Value → Block
  | .obj members =>
    match Value.member members "type" with
    | .str "tool_use" => .toolUse (Fields.get? "input" members)
    | .str "text" => .text (Fields.get? "text" members)
    | _ => .other
  | _ => .other

/-- The failure to find something in a value of that kind. -/
def lacks (kind name : String) : Reply :=
  .crashed "AttributeError" ("'" ++ kind ++ "' object has no attribute '" ++ name ++ "'")

/-- What a block of that kind settles in the search for a call of the tool. -/
def call? (blockKind : String) : Block → Option Reply
  | .toolUse (some (.obj input)) => some (.sent (.str (render (.obj input))))
  | .toolUse none => some (lacks blockKind "input")
  | _ => none

/-- What a block of that kind settles in the search for a text. -/
def speech? (blockKind : String) : Block → Option Reply
  | .text (some (.str s)) => if Text.isAllBlank s then none else some (.sent (.str s))
  | .text (some v) => some (lacks v.kindName "strip")
  | .text none => some (lacks blockKind "text")
  | _ => none

end Block

/-- Why there is no response. -/
inductive Failure
  /-- The service answers with an error status. -/
  | status (code : Int) (message : String)
  /-- The service cannot be reached. -/
  | connection
  /-- Something else went wrong, under a name of its own. -/
  | other (name message : String)
deriving Repr, DecidableEq

namespace Response

/-- Reads a response with blocks of that kind.  Content that is a text or an object holds no blocks
of use, and a number cannot hold any. -/
def ofMembers (blockKind : String) (members : Fields Value) : Except Failure Response :=
  let stopReason := Value.member members "stop_reason"
  let content := Value.member members "content"
  if content.isTruthy then
    match content with
    | .arr blocks => .ok ⟨blocks.map Block.ofValue, stopReason, blockKind⟩
    | .str _ | .obj _ => .ok ⟨[.other], stopReason, blockKind⟩
    | v => .error (.other "TypeError" ("'" ++ v.kindName ++ "' object is not iterable"))
  else .ok ⟨[], stopReason, blockKind⟩

/-- What an oracle makes of a response. -/
def reply (r : Response) : Reply :=
  if r.content = [] then
    .refused (.ofKind .malformedEnvelope "response has no content blocks")
  else
    match r.content.findSome? (Block.call? r.blockKind),
      r.content.findSome? (Block.speech? r.blockKind) with
    | some found, _ => found
    | none, some found => found
    | none, none =>
      .refused (.ofKind .malformedEnvelope
        ("no tool_use or text block (stop_reason=" ++ literal r.stopReason ++ ")"))

end Response

/-- What an oracle makes of a failure. -/
def Failure.reply : Failure → Reply
  | .status code message =>
    .refused (.ofKind .modelUnavailable
      ("status " ++ String.ofList (intText code) ++ ": " ++ message))
  | .connection =>
    .refused (.ofKind .modelUnavailable "connection failed: Connection error.")
  | .other name message => .crashed name message

/-- What an oracle makes of what comes back from the model. -/
def reply : Except Failure Response → Reply
  | .ok r => r.reply
  | .error failure => failure.reply

end Oracle

end CommandBar
