/-
Requests to a language model.

The schema is offered as the input of the only tool, and the model has to call
that tool, so the input of its call is the command.
-/
import CommandBar.Gateway

namespace CommandBar

namespace Oracle

/-- Which model is asked, and within which bounds. -/
structure Limits where
  model : String := "claude-sonnet-4-5-20250929"
  maxTokens : Json.Value := .int 1024
  /-- How long to wait for the response, in seconds. -/
  timeout : Json.Value := .float (.ofDecimal false 30 0)

/-- The name of the tool. -/
def toolName : String := "dashboard_command"

/-- The request that a query makes. -/
def request (limits : Limits) (query : Query) : Fields Json.Value := [
  ("model", .str limits.model),
  ("max_tokens", limits.maxTokens),
  ("messages", .arr [.obj [("role", .str "user"), ("content", .str query.prompt)]]),
  ("tools", .arr [.obj [
    ("name", .str toolName),
    ("description", .str "Record the one dashboard command the user asked for."),
    ("input_schema", query.schema)]]),
  ("tool_choice", .obj [("type", .str "tool"), ("name", .str toolName)]),
  ("timeout", limits.timeout)]

end Oracle

end CommandBar
