import CollectionRunner.CommandLine.Command
import CollectionRunner.CommandLine.Options
import CollectionRunner.Digest.Md5
import CollectionRunner.Digest.Sha2
import CollectionRunner.Digest.Words
import CollectionRunner.Duration
import CollectionRunner.Env.Change
import CollectionRunner.Env.Dotenv
import CollectionRunner.Env.Globals
import CollectionRunner.Env.Load
import CollectionRunner.Env.Placeholder
import CollectionRunner.Env.Tracker
import CollectionRunner.Env.Variables
import CollectionRunner.Files
import CollectionRunner.Http.Expansion
import CollectionRunner.Http.Model
import CollectionRunner.Http.Query
import CollectionRunner.Http.Refusal
import CollectionRunner.Http.Url
import CollectionRunner.Http.View
import CollectionRunner.Json.Codec
import CollectionRunner.Json.Fault
import CollectionRunner.Json.Numeral
import CollectionRunner.Json.Place
import CollectionRunner.Json.Print
import CollectionRunner.Json.Read
import CollectionRunner.Json.Tree
import CollectionRunner.Main
import CollectionRunner.Number.Digits
import CollectionRunner.Number.Layout
import CollectionRunner.Number.Parse
import CollectionRunner.Number.Power
import CollectionRunner.Number.Remainder
import CollectionRunner.Number.Rounding
import CollectionRunner.Path
import CollectionRunner.Pattern.Class
import CollectionRunner.Pattern.Match
import CollectionRunner.Pattern.Parse
import CollectionRunner.Proofs.Env.Replay
import CollectionRunner.Proofs.Run.Accounting
import CollectionRunner.Proofs.Run.Course
import CollectionRunner.Proofs.Run.Outcome
import CollectionRunner.Proofs.Script.Traces
import CollectionRunner.Random
import CollectionRunner.Run.Collection
import CollectionRunner.Run.Config
import CollectionRunner.Run.Printer
import CollectionRunner.Run.Report
import CollectionRunner.Run.Runner
import CollectionRunner.Run.Session
import CollectionRunner.Script.Call
import CollectionRunner.Script.Chain
import CollectionRunner.Script.Datum
import CollectionRunner.Script.Eval
import CollectionRunner.Script.Evaluation
import CollectionRunner.Script.Execution
import CollectionRunner.Script.Expectation
import CollectionRunner.Script.Failure
import CollectionRunner.Script.Host
import CollectionRunner.Script.Lexeme
import CollectionRunner.Script.Loop
import CollectionRunner.Script.Native
import CollectionRunner.Script.Native.Lists
import CollectionRunner.Script.Native.Namespaces
import CollectionRunner.Script.Native.Numbers
import CollectionRunner.Script.Native.Objects
import CollectionRunner.Script.Native.Sending
import CollectionRunner.Script.Native.Testing
import CollectionRunner.Script.Native.Texts
import CollectionRunner.Script.Operator
import CollectionRunner.Script.Parse
import CollectionRunner.Script.Prune
import CollectionRunner.Script.Result
import CollectionRunner.Script.Scope
import CollectionRunner.Script.Syntax
import CollectionRunner.Script.SyntaxFault
import CollectionRunner.Script.Task
import CollectionRunner.Script.Token
import CollectionRunner.Script.Value
import CollectionRunner.Text.Base64
import CollectionRunner.Text.Blank
import CollectionRunner.Text.Category
import CollectionRunner.Text.Letters
import CollectionRunner.Text.Lossy
import CollectionRunner.Text.Quoted
import CollectionRunner.Time
import CollectionRunner.Proofs.Run.Reproduction
import CollectionRunner.Proofs.Run.Summary
import CollectionRunner.Proofs.Run.Truncation
import CollectionRunner.Proofs.Run.Verdict
import CollectionRunner.Proofs.Env.Coherence
import CollectionRunner.Proofs.Env.Undo
import CollectionRunner.Proofs.Script.Endings
import CollectionRunner.Proofs.Run.Dispatch
import CollectionRunner.Proofs.Env.Expansion
import CollectionRunner.Proofs.Run.Lifecycle
import CollectionRunner.Proofs.Run.Placeholders
import CollectionRunner.Proofs.Script.Sharing
import CollectionRunner.Proofs.Run.Refusal
import CollectionRunner.Proofs.Env.Pieces
import CollectionRunner.Proofs.Env.Scan
import CollectionRunner.Proofs.Http.HeaderMap
import CollectionRunner.Proofs.Number.Integer
import CollectionRunner.Proofs.Script.Negation
import CollectionRunner.Proofs.Script.Integers
import CollectionRunner.Proofs.Http.QueryPart
import CollectionRunner.Proofs.Env.Escape
import CollectionRunner.Proofs.Run.Reports
import CollectionRunner.Proofs.Script.Tests
import CollectionRunner.Proofs.Number.Nearest
import CollectionRunner.Proofs.Json.ReadBack
import CollectionRunner.Proofs.Duration
import CollectionRunner.Proofs.Run.Documents
import CollectionRunner.Proofs.Json.Accepts
import CollectionRunner.Proofs.Http.HeaderOverride
import CollectionRunner.Proofs.Script.Repeats
import CollectionRunner.Proofs.Number.Shortest
import CollectionRunner.Proofs.Number.PlaceValue
import CollectionRunner.Proofs.Text.Quoted
import CollectionRunner.Proofs.Script.NumberText
import CollectionRunner.Proofs.Script.Description
import CollectionRunner.Proofs.Run.Folders
import CollectionRunner.Proofs.Script.CallOrder
import CollectionRunner.Proofs.Script.Places
import CollectionRunner.Proofs.Text.Category
import CollectionRunner.Proofs.Script.Wrapping
import CollectionRunner.Proofs.Script.ThrownText
import CollectionRunner.Proofs.Run.Lookup
import CollectionRunner.Proofs.Text.Blank
import CollectionRunner.Proofs.Text.Lossy
import CollectionRunner.Proofs.Text.Base64
import CollectionRunner.Proofs.Run.Slug
import CollectionRunner.Proofs.Number.Order
import CollectionRunner.Proofs.Json.Steady
import CollectionRunner.Proofs.Json.Conversion
import CollectionRunner.Proofs.Script.Durations
