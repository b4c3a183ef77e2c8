import KernelProbe.Abi.Call
import KernelProbe.Abi.Errno
import KernelProbe.Abi.Exec
import KernelProbe.Abi.Memory
import KernelProbe.Abi.Syscall
import KernelProbe.Abi.SyscallError
import KernelProbe.Abi.Thread
import KernelProbe.Codec.Decode
import KernelProbe.Codec.Encode
import KernelProbe.Codec.Reader
import KernelProbe.Codec.Scenario
import KernelProbe.Codec.Trace
import KernelProbe.CommandLine.Console
import KernelProbe.CommandLine.Help
import KernelProbe.CommandLine.Invocation
import KernelProbe.CommandLine.Options
import KernelProbe.CommandLine.Palette
import KernelProbe.CommandLine.Parse
import KernelProbe.CommandLine.Size
import KernelProbe.CommandLine.Usage
import KernelProbe.Host.AddressSpace
import KernelProbe.Host.CallLog
import KernelProbe.Host.Echo
import KernelProbe.Host.FileTree
import KernelProbe.Host.Loading
import KernelProbe.Host.Machine
import KernelProbe.Host.Path
import KernelProbe.Host.Storage
import KernelProbe.Json.Basic
import KernelProbe.Json.Parser
import KernelProbe.Json.Printer
import KernelProbe.Kernel.Mock
import KernelProbe.Kernel.Scripted
import KernelProbe.Log.Event
import KernelProbe.Log.Filter
import KernelProbe.Log.Format
import KernelProbe.Log.Pattern
import KernelProbe.Log.Pattern.Brackets
import KernelProbe.Log.Pattern.Escape
import KernelProbe.Log.Pattern.Reader
import KernelProbe.Log.Pattern.Support
import KernelProbe.Log.Pattern.Syntax
import KernelProbe.Main
import KernelProbe.Probe.Basic
import KernelProbe.Probe.Concurrency
import KernelProbe.Probe.Files
import KernelProbe.Probe.Identity
import KernelProbe.Probe.Lifecycle
import KernelProbe.Probe.Memory
import KernelProbe.Probe.Output
import KernelProbe.Probe.Scripted
import KernelProbe.Probe.Uname
import KernelProbe.Program.Basic
import KernelProbe.Program.Execution
import KernelProbe.Program.Step
import KernelProbe.Proofs.Codec.Forms
import KernelProbe.Proofs.Codec.Record
import KernelProbe.Proofs.CommandLine.Arguments
import KernelProbe.Proofs.CommandLine.Size
import KernelProbe.Proofs.Json.Lexing
import KernelProbe.Proofs.Json.Printer
import KernelProbe.Proofs.Json.RoundTrip
import KernelProbe.Proofs.Kernel.Mock
import KernelProbe.Proofs.Kernel.Store
import KernelProbe.Proofs.Probe.Agreement
import KernelProbe.Proofs.Probe.Concurrency
import KernelProbe.Proofs.Probe.Containment
import KernelProbe.Proofs.Probe.Course
import KernelProbe.Proofs.Probe.Custody
import KernelProbe.Proofs.Probe.Dependence
import KernelProbe.Proofs.Probe.ExecEvidence
import KernelProbe.Proofs.Probe.Files
import KernelProbe.Proofs.Probe.Grounds
import KernelProbe.Proofs.Probe.Identity
import KernelProbe.Proofs.Probe.JoinProtocol
import KernelProbe.Proofs.Probe.Lifecycle
import KernelProbe.Proofs.Probe.Memory
import KernelProbe.Proofs.Probe.Output
import KernelProbe.Proofs.Probe.Reading
import KernelProbe.Proofs.Probe.Regions
import KernelProbe.Proofs.Probe.Repertoire
import KernelProbe.Proofs.Probe.ResidencyVerdict
import KernelProbe.Proofs.Probe.Wording
import KernelProbe.Proofs.Program.Agreement
import KernelProbe.Proofs.Program.Answers
import KernelProbe.Proofs.Program.Frame
import KernelProbe.Proofs.Program.Grounds
import KernelProbe.Proofs.Program.Ledger
import KernelProbe.Proofs.Program.Plays
import KernelProbe.Proofs.Program.Steps
import KernelProbe.Proofs.Program.Wording
import KernelProbe.Proofs.Report.Filling
import KernelProbe.Proofs.Report.Framing
import KernelProbe.Proofs.Report.Rendering
import KernelProbe.Proofs.Session.Anatomy
import KernelProbe.Proofs.Session.Checkpoint
import KernelProbe.Proofs.Session.Completeness
import KernelProbe.Proofs.Session.Conformity
import KernelProbe.Proofs.Session.Criteria
import KernelProbe.Proofs.Session.Descriptors
import KernelProbe.Proofs.Session.Diagnoses
import KernelProbe.Proofs.Session.Faults
import KernelProbe.Proofs.Session.Health
import KernelProbe.Proofs.Session.Independence
import KernelProbe.Proofs.Session.Mappings
import KernelProbe.Proofs.Session.Naming
import KernelProbe.Proofs.Session.Records
import KernelProbe.Proofs.Session.Refusal
import KernelProbe.Proofs.Session.Rendering
import KernelProbe.Proofs.Session.Residency
import KernelProbe.Proofs.Session.Roster
import KernelProbe.Proofs.Session.Shares
import KernelProbe.Proofs.Session.Sightings
import KernelProbe.Proofs.Session.Sources
import KernelProbe.Proofs.Session.Stream
import KernelProbe.Proofs.Session.Targets
import KernelProbe.Proofs.Session.Thriving
import KernelProbe.Proofs.Session.Truncation
import KernelProbe.Proofs.Session.Validation
import KernelProbe.Proofs.Session.VerdictLines
import KernelProbe.Proofs.Session.Verdicts
import KernelProbe.Proofs.Text.Lines
import KernelProbe.Proofs.Text.Lossy
import KernelProbe.Proofs.Text.Number
import KernelProbe.Proofs.Text.Numeral
import KernelProbe.Proofs.Text.Utf8
import KernelProbe.Report.AuditLog
import KernelProbe.Report.Event
import KernelProbe.Report.JsonLines
import KernelProbe.Report.Masking
import KernelProbe.Report.PlanTable
import KernelProbe.Report.Sink
import KernelProbe.Report.TextLog
import KernelProbe.Report.Transcript
import KernelProbe.Session.Battery
import KernelProbe.Session.Config
import KernelProbe.Session.Filter
import KernelProbe.Session.RunId
import KernelProbe.Session.Standard
import KernelProbe.Text.Alphabet
import KernelProbe.Text.Number
import KernelProbe.Text.Numeral
import KernelProbe.Text.Ranges
import KernelProbe.Text.Similarity
import KernelProbe.Text.Split
import KernelProbe.Text.Style
import KernelProbe.Text.Table
import KernelProbe.Text.Terminal
import KernelProbe.Text.Utf8
import KernelProbe.Text.Width
import KernelProbe.Time.Duration
import KernelProbe.Time.Timestamp
import KernelProbe.Verdict.Evidence
import KernelProbe.Verdict.Failure
import KernelProbe.Verdict.Outcome
import KernelProbe.Verdict.Summary
