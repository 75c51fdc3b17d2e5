import CausalProfiler.Number.Binary
import CausalProfiler.Number.Decimal
import CausalProfiler.Number.Format
import CausalProfiler.Text.Blank
import CausalProfiler.Text.Printable
import CausalProfiler.Text.GraphemeExtend
import CausalProfiler.Text.Quoted
import CausalProfiler.Number.Read
import CausalProfiler.Document
import CausalProfiler.Text.Lines
import CausalProfiler.Profile.Basic
import CausalProfiler.Profile.Record
import CausalProfiler.Profile.Read
import CausalProfiler.Number.Compare
import CausalProfiler.Sorted
import CausalProfiler.Impact.Fit
import CausalProfiler.Impact.Cell
import CausalProfiler.Impact.Basic
import CausalProfiler.Report.Basic
import CausalProfiler.Report.Document
import CausalProfiler.Report.Text
import CausalProfiler.Report.Csv
import CausalProfiler.Fault
import CausalProfiler.Pattern
import CausalProfiler.Settings
import CausalProfiler.ThreadTable
import CausalProfiler.Registry
import CausalProfiler.Sample
import CausalProfiler.SourceMap
import CausalProfiler.Maps
import CausalProfiler.Sync
import CausalProfiler.Script.Table
import CausalProfiler.Script.Ring
import CausalProfiler.Script.Registry
import CausalProfiler.Random
import CausalProfiler.Profiler
import CausalProfiler.Engine.Basic
import CausalProfiler.Engine.Run
import CausalProfiler.Script.Session
import CausalProfiler.Compiler.CharClass
import CausalProfiler.Compiler.Escape
import CausalProfiler.Compiler.Lexer
import CausalProfiler.Compiler.Tree
import CausalProfiler.Compiler.Argument
import CausalProfiler.Attribute
import CausalProfiler.Script.Attribute
import CausalProfiler.Host.Diagnostic
import CausalProfiler.Host.Files
import CausalProfiler.Host.SharedObject
import CausalProfiler.Host.Loader
import CausalProfiler.Host.ObjectFile
import CausalProfiler.Host.Library
import CausalProfiler.Host.Probe
import CausalProfiler.Host.Artifact
import CausalProfiler.Host.Lifecycle
import CausalProfiler.Host.Signals
import CausalProfiler.Text.Similarity
import CausalProfiler.CommandLine.Basic
import CausalProfiler.CommandLine.Help
import CausalProfiler.CommandLine.Error
import CausalProfiler.CommandLine.Parse
import CausalProfiler.Tool.Command
import CausalProfiler.Tool.Project
import CausalProfiler.Tool.Build
import CausalProfiler.Tool.Invocation
import CausalProfiler.Main
import CausalProfiler.Proofs.Accounts
import CausalProfiler.Proofs.Control
import CausalProfiler.Proofs.Convergence
import CausalProfiler.Proofs.Baseline
import CausalProfiler.Proofs.DelayCap
import CausalProfiler.Proofs.LogRead
import CausalProfiler.Proofs.LogWrite
import CausalProfiler.Proofs.TableKeys
import CausalProfiler.Proofs.TableRaces
import CausalProfiler.Proofs.RingDelivery
import CausalProfiler.Proofs.ThreadExit
import CausalProfiler.Proofs.LogRun
import CausalProfiler.Proofs.Watermarks
import CausalProfiler.Proofs.SignalGuard
import CausalProfiler.Proofs.RunSettings
import CausalProfiler.Proofs.LogGrammar
import CausalProfiler.Proofs.WildcardLanguage
import CausalProfiler.Proofs.Attribution
import CausalProfiler.Proofs.BlockingCredit
import CausalProfiler.Proofs.SortedTables
import CausalProfiler.Proofs.Aggregation
import CausalProfiler.Proofs.LogAppend
import CausalProfiler.Proofs.SettingsOutcome
import CausalProfiler.Proofs.Tuning
import CausalProfiler.Proofs.Proposal
import CausalProfiler.Proofs.LineLookup
import CausalProfiler.Proofs.ByteOrder
import CausalProfiler.Proofs.ProgressPoints
import CausalProfiler.Engine.Hold
import CausalProfiler.Proofs.ArrivalHold
import CausalProfiler.Proofs.RangeCover
import CausalProfiler.Proofs.WildcardTermination
import CausalProfiler.Proofs.MappedObjects
import CausalProfiler.Proofs.CsvReading
