import Snippets.Main
import Snippets.Config.Source
import Snippets.Detection
import Snippets.DocumentFile
import Snippets.Duration
import Snippets.LogLevel
import Snippets.Proofs.Detection.FencePairs
import Snippets.Proofs.Detection.Tags
import Snippets.Proofs.Detection.Sectioning
import Snippets.Proofs.Detection.BlockText
import Snippets.Proofs.Detection.AliasFences
import Snippets.Proofs.Detection.Redetection
import Snippets.Proofs.Detection.Support
import Snippets.Proofs.Detection.Concatenation
import Snippets.Proofs.Detection.DocumentLines
import Snippets.Proofs.Detection.Cursor
import Snippets.Proofs.Execution.Shells
import Snippets.Proofs.Execution.MachineShells
import Snippets.Proofs.Execution.Closing
import Snippets.Proofs.Execution.Pools
import Snippets.Proofs.Execution.Sharing
import Snippets.Proofs.Execution.Lives
import Snippets.Proofs.Execution.Steps
import Snippets.Proofs.Execution.Watching
import Snippets.Proofs.Execution.Restarts
import Snippets.Proofs.Execution.Desk
import Snippets.Proofs.Execution.Remains
import Snippets.Proofs.Terminal.PlainMarkup
import Snippets.Proofs.CommandLine.Selection
import Snippets.Proofs.Text.LowerCase
import Snippets.Proofs.Text.Stripping
import Snippets.Proofs.Config.Lookup
import Snippets.Proofs.Config.Effective
import Snippets.Proofs.Config.Runners
import Snippets.Proofs.Config.Schema
import Snippets.Proofs.Config.Rechecking
import Snippets.Proofs.Text.Utf8
import Snippets.Proofs.Text.Cutting
import Snippets.Proofs.Files.Trees
import Snippets.Proofs.Execution.Executions
import Snippets.Proofs.CommandLine.ExitCodes
import Snippets.Proofs.Execution.Matching
import Snippets.Proofs.Execution.MachineFiles
import Snippets.Proofs.Execution.TemporaryFiles
import Snippets.Proofs.CommandLine.Processes
import Snippets.Proofs.Config.Overriding
import Snippets.Proofs.Text.Piecewise
import Snippets.Proofs.Config.Loading
import Snippets.Proofs.Detection.Titles
import Snippets.Proofs.CommandLine.RunnerTable
import Snippets.Proofs.CommandLine.Quiet
import Snippets.Proofs.Terminal.LiteralText
import Snippets.Proofs.Terminal.Fitting
import Snippets.Proofs.Terminal.TableCells
import Snippets.Proofs.CommandLine.ShownText
import Snippets.Proofs.Config.Sources
import Snippets.Proofs.Config.FileSize
import Snippets.Proofs.Execution.Intakes
import Snippets.Proofs.Execution.Deliveries
import Snippets.Proofs.Execution.Separators
import Snippets.Proofs.Detection.Classification
import Snippets.Proofs.Execution.Placeholders
import Snippets.Proofs.Number.Nearest
import Snippets.Proofs.CommandLine.Durations
