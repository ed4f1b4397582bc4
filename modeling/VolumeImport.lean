import VolumeImport.Double.Failures
import VolumeImport.Double.Fixture
import VolumeImport.Double.Recorder
import VolumeImport.Double.SampleDocument
import VolumeImport.Double.Script
import VolumeImport.Engine.Arguments
import VolumeImport.Engine.Operation
import VolumeImport.Engine.Options
import VolumeImport.Engine.Perform
import VolumeImport.Engine.Session
import VolumeImport.Failure.Import
import VolumeImport.Failure.System
import VolumeImport.Failure.Tool
import VolumeImport.FileSystem.Calls
import VolumeImport.FileSystem.Lookup
import VolumeImport.FileSystem.Path
import VolumeImport.FileSystem.Tree
import VolumeImport.Image.Cache
import VolumeImport.Image.Format
import VolumeImport.Image.Policy
import VolumeImport.Image.Report
import VolumeImport.Image.Source
import VolumeImport.Json.Fault
import VolumeImport.Json.Number
import VolumeImport.Json.Reader
import VolumeImport.Json.Record
import VolumeImport.Json.Skim
import VolumeImport.Json.Text
import VolumeImport.Json.Writer
import VolumeImport.Number.Word
import VolumeImport.Process.Collector
import VolumeImport.Process.Guard
import VolumeImport.Process.Limits
import VolumeImport.Process.Output
import VolumeImport.Process.Runner
import VolumeImport.Progress.Gauge
import VolumeImport.Progress.Publication
import VolumeImport.Progress.Token
import VolumeImport.Size.Quantity
import VolumeImport.Storage.Preallocation
import VolumeImport.Storage.Unbuffered
import VolumeImport.Storage.Zeroing
import VolumeImport.Text.Blank
import VolumeImport.Text.Colour
import VolumeImport.Text.Cut
import VolumeImport.Text.DecimalDigit
import VolumeImport.Text.Escaped
import VolumeImport.Text.Quoted
import VolumeImport.Text.Search
import VolumeImport.Text.Utf8
import VolumeImport.Proofs.FileSystem.Removal
import VolumeImport.Proofs.FileSystem.Following
import VolumeImport.Proofs.FileSystem.Creation
import VolumeImport.Proofs.Text.Numeral
import VolumeImport.Proofs.Text.Trimming
import VolumeImport.Proofs.Text.Encoding
import VolumeImport.Proofs.Text.Colours
import VolumeImport.Proofs.FileSystem.PathText
import VolumeImport.Proofs.Size.Spelling
import VolumeImport.Proofs.Size.Suffix
import VolumeImport.Proofs.Size.Rounding
import VolumeImport.Proofs.Size.Exact
import VolumeImport.Proofs.Size.Texts
import VolumeImport.Proofs.Storage.Fallback
import VolumeImport.Proofs.Storage.Tiling
import VolumeImport.Proofs.Storage.Probing
import VolumeImport.Proofs.Json.Alphabet
import VolumeImport.Proofs.Json.Recognition
import VolumeImport.Proofs.Json.Optionals
import VolumeImport.Proofs.Json.Strings
import VolumeImport.Proofs.Json.Integers
import VolumeImport.Proofs.Json.Rows
import VolumeImport.Proofs.Json.Values
import VolumeImport.Proofs.Json.SkippedTokens
import VolumeImport.Proofs.Json.SkippedNumbers
import VolumeImport.Proofs.Json.Skipping
import VolumeImport.Proofs.Json.Objects
import VolumeImport.Proofs.Json.Unambiguity
import VolumeImport.Proofs.Json.Records
import VolumeImport.Proofs.Json.Writing
import VolumeImport.Proofs.Json.Selection
import VolumeImport.Proofs.Image.Scheme
import VolumeImport.Proofs.Image.Documents
import VolumeImport.Proofs.Image.Members
import VolumeImport.Proofs.Image.RoundTrip
import VolumeImport.Proofs.Process.Collection
import VolumeImport.Proofs.Process.Judgement
import VolumeImport.Proofs.Process.Cuts
import VolumeImport.Proofs.Process.Colours
import VolumeImport.Proofs.Process.Starts
import VolumeImport.Proofs.Process.LimitDocuments
import VolumeImport.Proofs.Progress.Tokens
import VolumeImport.Proofs.Progress.Exact
import VolumeImport.Proofs.Progress.HighWater
import VolumeImport.Proofs.Engine.Record
import VolumeImport.Proofs.Engine.Runs
import VolumeImport.Proofs.Engine.Courses
import VolumeImport.Proofs.Engine.Cleanup
import VolumeImport.Proofs.Engine.PreallocationRuns
import VolumeImport.Proofs.Engine.Supervision
import VolumeImport.Proofs.Engine.DeviceFilling
import VolumeImport.Proofs.Engine.Validation
import VolumeImport.Proofs.Engine.Conversion
import VolumeImport.Proofs.Engine.SchemeGate
import VolumeImport.Proofs.Engine.Attempts
import VolumeImport.Proofs.Engine.ErrorClasses
import VolumeImport.Proofs.Engine.DeviceLinks
import VolumeImport.Proofs.Engine.Twins
import VolumeImport.Proofs.Engine.ProgressFlow
import VolumeImport.Proofs.Engine.ToolPaths
import VolumeImport.Proofs.Engine.OptionDocuments
import VolumeImport.Proofs.Engine.LookBounds
import VolumeImport.Proofs.Engine.ExportLogs
import VolumeImport.Proofs.Double.Agreement
import VolumeImport.Proofs.Double.Samples
