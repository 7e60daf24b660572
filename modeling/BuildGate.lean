import BuildGate.Binding.Binder
import BuildGate.Binding.Coerce
import BuildGate.Binding.Error
import BuildGate.Binding.Evaluator
import BuildGate.Binding.Placeholder
import BuildGate.Cache
import BuildGate.CommandLine.Arguments
import BuildGate.CommandLine.Check
import BuildGate.CommandLine.Emission
import BuildGate.CommandLine.Program
import BuildGate.CommandLine.Styled
import BuildGate.Decimal.Layout
import BuildGate.Decimal.Read
import BuildGate.Decimal.Remainder
import BuildGate.Decimal.Shortest
import BuildGate.Dict
import BuildGate.Digest.Sha256
import BuildGate.Document.Decode
import BuildGate.Document.Printer
import BuildGate.Document.Reader
import BuildGate.Document.Value
import BuildGate.Enforcement.Declaration
import BuildGate.Enforcement.Execute
import BuildGate.Enforcement.Failure
import BuildGate.Enforcement.Options
import BuildGate.Enforcement.Prepare
import BuildGate.Enforcement.Report
import BuildGate.Expression.Datum
import BuildGate.Expression.Error
import BuildGate.Expression.Eval
import BuildGate.Expression.Function
import BuildGate.Expression.Real
import BuildGate.Expression.Scope
import BuildGate.Expression.Token
import BuildGate.Expression.Tree
import BuildGate.Files.Path
import BuildGate.Files.System
import BuildGate.Log.Filter
import BuildGate.Log.Level
import BuildGate.Log.Notice
import BuildGate.Log.Timestamp
import BuildGate.Main
import BuildGate.Pattern.Bracket
import BuildGate.Pattern.Class
import BuildGate.Pattern.ClassName
import BuildGate.Pattern.Escape
import BuildGate.Pattern.Footprint
import BuildGate.Pattern.Outline
import BuildGate.Pattern.Reader
import BuildGate.Pattern.Syntax
import BuildGate.Proofs.Binding.Coercion
import BuildGate.Proofs.Binding.Escaping
import BuildGate.Proofs.Binding.Interpolation
import BuildGate.Proofs.Binding.Leaves
import BuildGate.Proofs.Binding.Parameters
import BuildGate.Proofs.Binding.Retry
import BuildGate.Proofs.Binding.Segments
import BuildGate.Proofs.Binding.Spelling
import BuildGate.Proofs.Cache.Ledger
import BuildGate.Proofs.Cache.Recorded
import BuildGate.Proofs.CommandLine.Passes
import BuildGate.Proofs.CommandLine.Reported
import BuildGate.Proofs.Decimal.Digits
import BuildGate.Proofs.Dict.Latest
import BuildGate.Proofs.Dict.Lookup
import BuildGate.Proofs.Document.Address
import BuildGate.Proofs.Document.Decoders
import BuildGate.Proofs.Document.Fields
import BuildGate.Proofs.Document.Finite
import BuildGate.Proofs.Document.Literals
import BuildGate.Proofs.Document.Printed
import BuildGate.Proofs.Document.ReadBack
import BuildGate.Proofs.Document.Written
import BuildGate.Proofs.Enforcement.Policy
import BuildGate.Proofs.Enforcement.Positions
import BuildGate.Proofs.Enforcement.Preparation
import BuildGate.Proofs.Enforcement.Readiness
import BuildGate.Proofs.Enforcement.Reuse
import BuildGate.Proofs.Enforcement.Session
import BuildGate.Proofs.Enforcement.Trail
import BuildGate.Proofs.Enforcement.Verdict
import BuildGate.Proofs.Expression.Properties
import BuildGate.Proofs.Parallel.Clients
import BuildGate.Proofs.Parallel.Exposed
import BuildGate.Proofs.Parallel.Heeded
import BuildGate.Proofs.Parallel.Onward
import BuildGate.Proofs.Parallel.Phase
import BuildGate.Proofs.Parallel.Stage
import BuildGate.Proofs.Parallel.Worker
import BuildGate.Proofs.Pattern.Followed
import BuildGate.Proofs.Pattern.FollowedClass
import BuildGate.Proofs.Pattern.FollowedPart
import BuildGate.Proofs.Pattern.Room
import BuildGate.Proofs.Pattern.Spans
import BuildGate.Proofs.Pattern.Within
import BuildGate.Proofs.Pattern.Wrapped
import BuildGate.Proofs.Registry.FirstLetter
import BuildGate.Proofs.Registry.History
import BuildGate.Proofs.Rule.Anchoring
import BuildGate.Proofs.Rule.CanonicalName
import BuildGate.Proofs.Rule.Configured
import BuildGate.Proofs.Rule.FileIdentity
import BuildGate.Proofs.Rule.FilePresence
import BuildGate.Proofs.Sequence.FirstFault
import BuildGate.Proofs.Sequence.Kept
import BuildGate.Proofs.Settings.Declarations
import BuildGate.Proofs.Settings.Environment
import BuildGate.Proofs.Settings.Layers
import BuildGate.Proofs.Settings.Sources
import BuildGate.Proofs.Settings.Written
import BuildGate.Proofs.Text.Ended
import BuildGate.Proofs.Text.LowerCase
import BuildGate.Proofs.Text.UpperCase
import BuildGate.Registry
import BuildGate.Rule.Basic
import BuildGate.Rule.Builtin
import BuildGate.Rule.Condition
import BuildGate.Rule.Context
import BuildGate.Rule.FileList
import BuildGate.Rule.Name
import BuildGate.Rule.Requirement
import BuildGate.Rule.SizeLimit
import BuildGate.Settings.Config
import BuildGate.Settings.EnvironmentValue
import BuildGate.Settings.Loader
import BuildGate.Settings.Toggle
import BuildGate.Severity
import BuildGate.Text.Age
import BuildGate.Text.Blank
import BuildGate.Text.Boundary
import BuildGate.Text.Bytes
import BuildGate.Text.Case
import BuildGate.Text.CaseTable
import BuildGate.Text.Category
import BuildGate.Text.CharProperty
import BuildGate.Text.CharSet
import BuildGate.Text.Edition
import BuildGate.Text.Escape
import BuildGate.Text.Quoted
import BuildGate.Text.Script
import BuildGate.Text.Utf8
import BuildGate.Toml.Moment
import BuildGate.Toml.Number
import BuildGate.Toml.Reader
import BuildGate.Toml.Table
import BuildGate.Toml.Text
