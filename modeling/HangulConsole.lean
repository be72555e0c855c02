import HangulConsole.Audience
import HangulConsole.Calendar
import HangulConsole.Calls.Marking
import HangulConsole.Calls.Names
import HangulConsole.Calls.Occurrence
import HangulConsole.Calls.OnePass
import HangulConsole.Decimal.Shortest
import HangulConsole.Domain.Composition
import HangulConsole.Domain.Direction
import HangulConsole.Domain.Mapping
import HangulConsole.Domain.Name
import HangulConsole.Domain.Punycode
import HangulConsole.Editor
import HangulConsole.EntryPoint
import HangulConsole.Failure
import HangulConsole.Files.Disk
import HangulConsole.Files.Fault
import HangulConsole.Files.Path
import HangulConsole.Files.Tree
import HangulConsole.Guest.Activity
import HangulConsole.Guest.Definition
import HangulConsole.Guest.Exception
import HangulConsole.Guest.Interpreter
import HangulConsole.Guest.Scope
import HangulConsole.Guest.Value
import HangulConsole.Json.Fault
import HangulConsole.Json.Number
import HangulConsole.Json.Numerals
import HangulConsole.Json.Reader
import HangulConsole.Json.Settings
import HangulConsole.Json.Skipping
import HangulConsole.Json.Strings
import HangulConsole.Json.Values
import HangulConsole.Keywords.Script
import HangulConsole.Keywords.Source
import HangulConsole.Keywords.Table
import HangulConsole.LineInput.Basic
import HangulConsole.LineInput.Table
import HangulConsole.Main
import HangulConsole.Output.Piece
import HangulConsole.Output.Queue
import HangulConsole.Program
import HangulConsole.Proofs.Audience
import HangulConsole.Proofs.Calls.Clash
import HangulConsole.Proofs.Calls.Deletion
import HangulConsole.Proofs.Calls.Idempotence
import HangulConsole.Proofs.Calls.Markers
import HangulConsole.Proofs.Calls.Marking
import HangulConsole.Proofs.Calls.Matcher
import HangulConsole.Proofs.Calls.Occurrence
import HangulConsole.Proofs.Calls.OnePass
import HangulConsole.Proofs.Calls.Parts
import HangulConsole.Proofs.Calls.Passes
import HangulConsole.Proofs.Calls.Repetition
import HangulConsole.Proofs.Calls.SettingAside
import HangulConsole.Proofs.Calls.Standalone
import HangulConsole.Proofs.Calls.Stretches
import HangulConsole.Proofs.EntryPoint
import HangulConsole.Proofs.EntryPoint.Margin
import HangulConsole.Proofs.Files.Path
import HangulConsole.Proofs.Files.Tree
import HangulConsole.Proofs.Guest.Binding
import HangulConsole.Proofs.Guest.Delivery
import HangulConsole.Proofs.Guest.ErrorOutput
import HangulConsole.Proofs.Guest.Refusal
import HangulConsole.Proofs.Guest.Sequence
import HangulConsole.Proofs.Keywords
import HangulConsole.Proofs.LineInput.Delivery
import HangulConsole.Proofs.LineInput.Effects
import HangulConsole.Proofs.LineInput.InFlight
import HangulConsole.Proofs.LineInput.Owners
import HangulConsole.Proofs.LineInput.Record
import HangulConsole.Proofs.LineInput.Requests
import HangulConsole.Proofs.LineInput.Sound
import HangulConsole.Proofs.LineInput.Unnoticed
import HangulConsole.Proofs.Output.Spool
import HangulConsole.Proofs.Program
import HangulConsole.Proofs.Program.SuggestedName
import HangulConsole.Proofs.Session.Abandoned
import HangulConsole.Proofs.Session.Alone
import HangulConsole.Proofs.Session.BootFailure
import HangulConsole.Proofs.Session.Booted
import HangulConsole.Proofs.Session.Boots
import HangulConsole.Proofs.Session.Conversation
import HangulConsole.Proofs.Session.Effects
import HangulConsole.Proofs.Session.Growth
import HangulConsole.Proofs.Session.Lifecycle
import HangulConsole.Proofs.Session.Line
import HangulConsole.Proofs.Session.Moves
import HangulConsole.Proofs.Session.Notes
import HangulConsole.Proofs.Session.Order
import HangulConsole.Proofs.Session.Outcomes
import HangulConsole.Proofs.Session.Preparation
import HangulConsole.Proofs.Session.Recital
import HangulConsole.Proofs.Session.Report
import HangulConsole.Proofs.Session.Rest
import HangulConsole.Proofs.Session.Serial
import HangulConsole.Proofs.Session.Settled
import HangulConsole.Proofs.Session.Telling
import HangulConsole.Proofs.Session.Work
import HangulConsole.Proofs.Settings
import HangulConsole.Proofs.Terminal.Changes
import HangulConsole.Proofs.Terminal.Desk
import HangulConsole.Proofs.Terminal.Late
import HangulConsole.Proofs.Terminal.Readers
import HangulConsole.Proofs.Terminal.Screen
import HangulConsole.Proofs.Terminal.Shown
import HangulConsole.Proofs.Terminal.Stands
import HangulConsole.Proofs.Text.Classes
import HangulConsole.Proofs.Text.SourceLines
import HangulConsole.Proofs.Transcript
import HangulConsole.Rehearsal
import HangulConsole.Script.Definition
import HangulConsole.Script.Execution
import HangulConsole.Script.Reader
import HangulConsole.Script.Syntax
import HangulConsole.Script.Workspace
import HangulConsole.Session.Basic
import HangulConsole.Session.Status
import HangulConsole.Session.Step
import HangulConsole.Session.Tasks
import HangulConsole.Settings.Basic
import HangulConsole.Settings.Document
import HangulConsole.Settings.Messages
import HangulConsole.Standard
import HangulConsole.Terminal.Basic
import HangulConsole.Terminal.Command
import HangulConsole.Terminal.Dialogue
import HangulConsole.Terminal.Incoming
import HangulConsole.Terminal.Launch
import HangulConsole.Terminal.Screen
import HangulConsole.Text.Alphanumeric
import HangulConsole.Text.Blank
import HangulConsole.Text.Lines
import HangulConsole.Text.Printable
import HangulConsole.Text.Quoted
import HangulConsole.Text.Ranges
import HangulConsole.Text.Utf8
import HangulConsole.Transcript
import HangulConsole.Url.Address
import HangulConsole.Url.Basic
import HangulConsole.Url.Percent
import HangulConsole.Url.Reader
