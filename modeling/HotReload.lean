import HotReload.SortedMap
import HotReload.Text.Case
import HotReload.Name
import HotReload.Identity
import HotReload.Digest.Content
import HotReload.Archive.Directory
import HotReload.Backend.Mixed
import HotReload.Loader.Setup
import HotReload.Main
import HotReload.Executor
import HotReload.Plugin.Reference
import HotReload.Environment.Call
import HotReload.Builtin.Script
import HotReload.Script.Source
import HotReload.Value.Printer
import HotReload.Value.Parser
import HotReload.Proofs.History.Incremental
import HotReload.Proofs.History.Isolation
import HotReload.Proofs.History.Containment
import HotReload.Proofs.History.Causes
import HotReload.Proofs.History.Numbering
import HotReload.Proofs.History.Parallelism
import HotReload.Proofs.History.Replay
import HotReload.Proofs.History.Scope
import HotReload.Proofs.History.Attribution
import HotReload.Proofs.History.Submission
import HotReload.Proofs.History.Execution
import HotReload.Proofs.Script.Numbering
import HotReload.Proofs.Script.Blame
import HotReload.Proofs.Script.Compilation
import HotReload.Proofs.Script.LinkCheck
import HotReload.Proofs.Script.Termination
import HotReload.Proofs.Script.Crash
import HotReload.Proofs.Script.Height
import HotReload.Proofs.Script.Depth
import HotReload.Proofs.Script.Addition
import HotReload.Proofs.Backend.Symbols
import HotReload.Proofs.Backend.Script
import HotReload.Proofs.Visibility
import HotReload.Proofs.Archive.Coverage
import HotReload.Proofs.Archive.Directory
import HotReload.Proofs.Archive.Reach
import HotReload.Proofs.Dependency.Reports
import HotReload.Proofs.Dependency.Reproducibility
import HotReload.Proofs.Name
import HotReload.Proofs.Identity
import HotReload.Proofs.HostAccess
