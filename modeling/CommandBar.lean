import CommandBar.Action
import CommandBar.Catalog.Blueprint
import CommandBar.Catalog.Standard
import CommandBar.Channel.Basic
import CommandBar.Channel.Voice
import CommandBar.Chat
import CommandBar.Command
import CommandBar.Console
import CommandBar.Dashboard
import CommandBar.Decimal.Double
import CommandBar.Decimal.Reading
import CommandBar.Decimal.Shortest
import CommandBar.Dispatcher
import CommandBar.Error
import CommandBar.Fields
import CommandBar.Gateway
import CommandBar.Host
import CommandBar.Interpreter
import CommandBar.Json.Reader
import CommandBar.Json.Value
import CommandBar.Json.Writer
import CommandBar.Log
import CommandBar.Oracle.Request
import CommandBar.Oracle.Response
import CommandBar.OutputSchema
import CommandBar.Phrase.Pattern
import CommandBar.Phrase.Search
import CommandBar.Phrase.Steps
import CommandBar.Phrase.Template
import CommandBar.Prompt
import CommandBar.Reply.Basic
import CommandBar.Reply.Fence
import CommandBar.Reply.Payload
import CommandBar.Session
import CommandBar.Text.Blank
import CommandBar.Text.Case
import CommandBar.Text.CaseTable
import CommandBar.Text.Digit
import CommandBar.Text.Name
import CommandBar.Text.Printable
import CommandBar.Text.Quoted
import CommandBar.Text.Span
import CommandBar.Validation.Answer
import CommandBar.Validation.Command
import CommandBar.Validation.Refusal
import CommandBar.Validation.Resolution
import CommandBar.Validation.Setting
import CommandBar.Widget
import CommandBar.Main
import CommandBar.Proofs.Double
import CommandBar.Proofs.Fields
import CommandBar.Proofs.Refusal
import CommandBar.Proofs.Setting
import CommandBar.Proofs.Validation
import CommandBar.Proofs.Dashboard
import CommandBar.Proofs.Dispatch
import CommandBar.Proofs.Interpretation
import CommandBar.Proofs.Fault
import CommandBar.Proofs.Run
import CommandBar.Proofs.Opening
import CommandBar.Proofs.Overlap
import CommandBar.Proofs.Channel
import CommandBar.Proofs.Interleaving
import CommandBar.Proofs.SingleFlight
import CommandBar.Proofs.History
import CommandBar.Proofs.Closing
import CommandBar.Proofs.Fence
import CommandBar.Proofs.Classification
import CommandBar.Proofs.Numeral
import CommandBar.Proofs.Rendering
import CommandBar.Proofs.Decoding
import CommandBar.Proofs.Patch
import CommandBar.Proofs.Reordering
import CommandBar.Proofs.Scan
import CommandBar.Proofs.Inventory
import CommandBar.Proofs.Wire
import CommandBar.Proofs.Letter
import CommandBar.Proofs.Matching
import CommandBar.Proofs.Joining
import CommandBar.Proofs.Language
import CommandBar.Proofs.Brackets
import CommandBar.Proofs.Grammar
import CommandBar.Proofs.Capitals
import CommandBar.Proofs.Recognition
import CommandBar.Proofs.Reading
import CommandBar.Proofs.Order
import CommandBar.Proofs.Store
import CommandBar.Proofs.Addressing
import CommandBar.Proofs.Agreement
import CommandBar.Proofs.Schema
import CommandBar.Proofs.Microphone
import CommandBar.Proofs.Capture
import CommandBar.Proofs.Closed
import CommandBar.Proofs.Log
import CommandBar.Proofs.Whole
import CommandBar.Proofs.Settled
import CommandBar.Proofs.Typed
import CommandBar.Proofs.Amount
import CommandBar.Proofs.KeySetting
import CommandBar.Proofs.Arrangement
import CommandBar.Proofs.Optional
import CommandBar.Proofs.Unclosed
import CommandBar.Proofs.Apart
import CommandBar.Proofs.Margin
import CommandBar.Proofs.Punctuation
import CommandBar.Proofs.Choices
import CommandBar.Proofs.Naming
import CommandBar.Proofs.Required
import CommandBar.Proofs.Listener
import CommandBar.Proofs.Release
