import FlagSearch.Binary64.Basic
import FlagSearch.Binary64.Decimal
import FlagSearch.Binary64.Places
import FlagSearch.Binary64.Scaled
import FlagSearch.Binary64.Shortest
import FlagSearch.Build.Compiler
import FlagSearch.Build.Plan
import FlagSearch.Build.Timing
import FlagSearch.CommandLine.Execution
import FlagSearch.CommandLine.Invocation
import FlagSearch.CommandLine.Options
import FlagSearch.Draws
import FlagSearch.Duration
import FlagSearch.Entry
import FlagSearch.Evaluator
import FlagSearch.Fault
import FlagSearch.FlagSet.Basic
import FlagSearch.FlagSet.Text
import FlagSearch.FlagSet.Words
import FlagSearch.Json.Reader
import FlagSearch.Json.Record
import FlagSearch.Json.Tokens
import FlagSearch.Json.Value
import FlagSearch.Json.Writer
import FlagSearch.Machine
import FlagSearch.Main
import FlagSearch.Memo.Basic
import FlagSearch.Memo.Calls
import FlagSearch.Memo.Shared
import FlagSearch.Neighbours
import FlagSearch.Outcome
import FlagSearch.Path
import FlagSearch.Proofs.Binary64.Integers
import FlagSearch.Proofs.Binary64.Value
import FlagSearch.Proofs.Build.Classification
import FlagSearch.Proofs.Build.Staging
import FlagSearch.Proofs.Draws
import FlagSearch.Proofs.FlagSet.Bools
import FlagSearch.Proofs.FlagSet.Built
import FlagSearch.Proofs.FlagSet.Distance
import FlagSearch.Proofs.FlagSet.Flips
import FlagSearch.Proofs.FlagSet.Text
import FlagSearch.Proofs.Json.Documents
import FlagSearch.Proofs.Json.Numbers
import FlagSearch.Proofs.Json.OneLine
import FlagSearch.Proofs.Json.Texts
import FlagSearch.Proofs.Memo.Answers
import FlagSearch.Proofs.Memo.Distinct
import FlagSearch.Proofs.Memo.Endings
import FlagSearch.Proofs.Memo.Flights
import FlagSearch.Proofs.Memo.Keys
import FlagSearch.Proofs.Memo.Nested
import FlagSearch.Proofs.Memo.Provenance
import FlagSearch.Proofs.Memo.Recency
import FlagSearch.Proofs.Memo.Traffic
import FlagSearch.Proofs.Memo.Truth
import FlagSearch.Proofs.Neighbours.Advance
import FlagSearch.Proofs.Neighbours.Enumeration
import FlagSearch.Proofs.Neighbours.Tuples
import FlagSearch.Proofs.Paths
import FlagSearch.Proofs.Pool.Basic
import FlagSearch.Proofs.Pool.Consultations
import FlagSearch.Proofs.Pool.Counts
import FlagSearch.Proofs.Pool.Lawful
import FlagSearch.Proofs.Pool.Marks
import FlagSearch.Proofs.Pool.Published
import FlagSearch.Proofs.Pool.Runs
import FlagSearch.Proofs.Pool.Serial
import FlagSearch.Proofs.Ranking
import FlagSearch.Proofs.Search.Aborts
import FlagSearch.Proofs.Search.Accepted
import FlagSearch.Proofs.Search.Accounts
import FlagSearch.Proofs.Search.Association
import FlagSearch.Proofs.Search.Balance
import FlagSearch.Proofs.Search.Best
import FlagSearch.Proofs.Search.Budget
import FlagSearch.Proofs.Search.Cancellation
import FlagSearch.Proofs.Search.Climbing
import FlagSearch.Proofs.Search.Contacts
import FlagSearch.Proofs.Search.Course
import FlagSearch.Proofs.Search.Faults
import FlagSearch.Proofs.Search.Inclusion
import FlagSearch.Proofs.Search.Panics
import FlagSearch.Proofs.Search.Phases
import FlagSearch.Proofs.Search.Plain
import FlagSearch.Proofs.Search.Published
import FlagSearch.Proofs.Search.Ranked
import FlagSearch.Proofs.Search.Refusals
import FlagSearch.Proofs.Search.Replay
import FlagSearch.Proofs.Search.Scoring
import FlagSearch.Proofs.Search.SingleStep
import FlagSearch.Proofs.Search.Standing
import FlagSearch.Proofs.Search.Steps
import FlagSearch.Proofs.Search.Trajectory
import FlagSearch.Proofs.Search.Transparency
import FlagSearch.Proofs.Search.Unmarked
import FlagSearch.Proofs.Session.Causes
import FlagSearch.Proofs.Session.Numbering
import FlagSearch.Proofs.Stored.FlagSets
import FlagSearch.Proofs.Stored.Outcomes
import FlagSearch.Proofs.Stored.Records
import FlagSearch.Proofs.Stored.Reports
import FlagSearch.Proofs.Stored.Settings
import FlagSearch.Proofs.Tabu.Exhaustion
import FlagSearch.Proofs.Tabu.Insertions
import FlagSearch.Proofs.Tabu.Memory
import FlagSearch.Proofs.Tabu.Reference
import FlagSearch.Proofs.Tabu.Revisits
import FlagSearch.Proofs.Tabu.Trail
import FlagSearch.Proofs.Text.Quoted
import FlagSearch.Reply
import FlagSearch.Report.Basic
import FlagSearch.Report.Summary
import FlagSearch.Sandbox.Basic
import FlagSearch.Sandbox.Files
import FlagSearch.Sandbox.Kernel
import FlagSearch.Sandbox.Machine
import FlagSearch.Sandbox.Modes
import FlagSearch.Sandbox.Program
import FlagSearch.Sandbox.Question
import FlagSearch.Sandbox.System
import FlagSearch.Search.Bench
import FlagSearch.Search.Run
import FlagSearch.Search.Settings
import FlagSearch.Search.Strategy
import FlagSearch.SearchError
import FlagSearch.Session.Basic
import FlagSearch.Session.Failure
import FlagSearch.Session.Results
import FlagSearch.Shell.Arithmetic
import FlagSearch.Shell.Builtins.Basic
import FlagSearch.Shell.Builtins.Jobs
import FlagSearch.Shell.Builtins.Options
import FlagSearch.Shell.Builtins.Output
import FlagSearch.Shell.Builtins.Places
import FlagSearch.Shell.Builtins.Read
import FlagSearch.Shell.Builtins.Variables
import FlagSearch.Shell.Evaluation
import FlagSearch.Shell.Expansion
import FlagSearch.Shell.Fields
import FlagSearch.Shell.Globbing
import FlagSearch.Shell.Lookup
import FlagSearch.Shell.Pattern
import FlagSearch.Shell.Reader
import FlagSearch.Shell.Redirects
import FlagSearch.Shell.Script
import FlagSearch.Shell.Source
import FlagSearch.Shell.Start
import FlagSearch.Shell.State
import FlagSearch.Shell.Words
import FlagSearch.Stored.FlagSet
import FlagSearch.Stored.Outcome
import FlagSearch.Stored.Report
import FlagSearch.Stored.Settings
import FlagSearch.Stored.Universe
import FlagSearch.TabuList
import FlagSearch.Text.Classes
import FlagSearch.Text.Digits
import FlagSearch.Text.Format
import FlagSearch.Text.Layout
import FlagSearch.Text.Number
import FlagSearch.Text.Octets
import FlagSearch.Text.Pieces
import FlagSearch.Text.Quoted
import FlagSearch.Text.Regex
import FlagSearch.Text.Unseen
import FlagSearch.Tools.Basic
import FlagSearch.Tools.Calculating
import FlagSearch.Tools.Calendar
import FlagSearch.Tools.Children
import FlagSearch.Tools.Columns
import FlagSearch.Tools.Editing
import FlagSearch.Tools.Listing
import FlagSearch.Tools.Making
import FlagSearch.Tools.Matching
import FlagSearch.Tools.Moving
import FlagSearch.Tools.Paths
import FlagSearch.Tools.Showing
import FlagSearch.Tools.Sorting
import FlagSearch.Tools.Telling
import FlagSearch.Tools.Toolbox
import FlagSearch.Universe
