import Rehearsal.Arguments
import Rehearsal.Command
import Rehearsal.Comparison
import Rehearsal.Discovery
import Rehearsal.Fault
import Rehearsal.Files
import Rehearsal.Inquiry
import Rehearsal.LineDiff
import Rehearsal.Manifest
import Rehearsal.Program
import Rehearsal.Proofs.Agenda
import Rehearsal.Proofs.Attribution
import Rehearsal.Proofs.Backlog
import Rehearsal.Proofs.Bookkeeping
import Rehearsal.Proofs.Composition
import Rehearsal.Proofs.Course
import Rehearsal.Proofs.Coverage
import Rehearsal.Proofs.Cutting
import Rehearsal.Proofs.Diagnostics
import Rehearsal.Proofs.Differences
import Rehearsal.Proofs.Encoding
import Rehearsal.Proofs.Enumeration
import Rehearsal.Proofs.Examiner
import Rehearsal.Proofs.Filling
import Rehearsal.Proofs.Frame
import Rehearsal.Proofs.Framing
import Rehearsal.Proofs.Isolation
import Rehearsal.Proofs.Ledger
import Rehearsal.Proofs.Leniency
import Rehearsal.Proofs.Listing
import Rehearsal.Proofs.Live
import Rehearsal.Proofs.Modes
import Rehearsal.Proofs.NormalForm
import Rehearsal.Proofs.Overwriting
import Rehearsal.Proofs.Pairing
import Rehearsal.Proofs.Paths
import Rehearsal.Proofs.Printing
import Rehearsal.Proofs.Quoting
import Rehearsal.Proofs.Readers
import Rehearsal.Proofs.Reordering
import Rehearsal.Proofs.Retrying
import Rehearsal.Proofs.Screen
import Rehearsal.Proofs.Simulation
import Rehearsal.Proofs.Splicing
import Rehearsal.Proofs.Terminal
import Rehearsal.Proofs.Traffic
import Rehearsal.Proofs.Truncation
import Rehearsal.Proofs.Verbatim
import Rehearsal.Property
import Rehearsal.Regex.CharSet
import Rehearsal.Regex.Classes
import Rehearsal.Regex.Pattern
import Rehearsal.Regex.Reader
import Rehearsal.Regex.Search
import Rehearsal.Report
import Rehearsal.Run
import Rehearsal.Script
import Rehearsal.Session
import Rehearsal.Settings
import Rehearsal.Shell.Arithmetic
import Rehearsal.Shell.Builtin
import Rehearsal.Shell.Condition
import Rehearsal.Shell.Format
import Rehearsal.Shell.Glob
import Rehearsal.Shell.Invocation
import Rehearsal.Shell.Machine
import Rehearsal.Shell.Reader
import Rehearsal.Shell.Run
import Rehearsal.Shell.Scope
import Rehearsal.Shell.Syntax
import Rehearsal.Stage
import Rehearsal.Suite
import Rehearsal.Tally
import Rehearsal.Text.Chars
import Rehearsal.Text.Escaped
import Rehearsal.Text.Lines
import Rehearsal.Text.Literal
import Rehearsal.Text.Template
import Rehearsal.Text.Utf8
import Rehearsal.Text.Width
import Rehearsal.Unicode.CaseOrbits
import Rehearsal.Unicode.Categories
import Rehearsal.Unicode.Properties
import Rehearsal.Unicode.Ranges
import Rehearsal.Unicode.Scripts
import Rehearsal.Unicode.WidthClasses
import Rehearsal.Verdict
import Rehearsal.Wire
import Rehearsal.Yaml.Document
import Rehearsal.Yaml.Node
import Rehearsal.Yaml.Scalar
import Rehearsal.Yaml.Spot
import Rehearsal.Yaml.Token
import Rehearsal.Yaml.Value
import Rehearsal.Main
