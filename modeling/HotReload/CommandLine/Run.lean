import HotReload.Archive.Directory
import HotReload.CommandLine.Arguments
import HotReload.CommandLine.Config
import HotReload.CommandLine.InvokeTarget

/-!
# Running a command

A command prints lines and may fail. A failure is reported as a chain of messages, from the outermost
context to the cause; a crash of a called function ends the program. Running a command depends on the
command line, on the disk, which it may also change, and on what the host tells about itself.
-/

namespace HotReload.CommandLine

/-- What the host tells about itself. -/
structure Host where
  /-- The number of the running process. -/
  processId : Nat
  /-- The milliseconds since the start of 1970. -/
  now : Nat
  /-- The name of the reload, which no other has. -/
  cycle : String

/-- The time, asked for without arguments. -/
def Host.clock (h : Host) : List Value → Except CallError Value
  | [] => .ok (.int h.now)
  | args => .error (.arity "host.clock.unix-ms" 0 args.length)

/-- The symbols that the host offers to modules. -/
def Host.symbols (h : Host) : List Symbol := [
  ⟨"host.clock.unix-ms", Builtin.pureFunction h.clock, by decide⟩,
  ⟨"host.process.id", .constant (.int h.processId), by decide⟩]

/-- Why a command does not succeed. -/
inductive CommandFailure where
  /-- The messages from the outermost context to the cause. -/
  | reported (chain : List String)
  /-- A function that was called broke down with a message. -/
  | crashed (message : String)

/-- What a command prints, and why it fails if it does. -/
structure Transcript where
  lines : List String
  failure : Option CommandFailure

/-- A command that prints nothing and fails. -/
def Transcript.failed (chain : List String) : Transcript where
  lines := []
  failure := some (.reported chain)

/-! ## Configuration -/

/-- The configuration file that is used if there is one and no other is named. -/
def defaultConfigPath : String := "./relink.toml"

/-- The configuration in the file that was found at a path. -/
def configIn (path : String) : Except PathFault FileTree → Except (List String) Config
  | .error fault => .error ["reading " ++ path, fault.message]
  | .ok (.directory _) => .error ["reading " ++ path, PathFault.isDirectory.message]
  | .ok .outOfReach => .error ["reading " ++ path, PathFault.tooLong.message]
  | .ok (.file content) =>
    match String.fromUTF8? content with
    | none => .error ["reading " ++ path, Archive.notTextMessage]
    | some text => (Config.parse text).mapError fun e => ["parsing " ++ path, e.message]

/-- The configuration to use. -/
def configFor [Monad m] (disk : Disk m) : Option String → ExceptT (List String) m Config
  | some path => do configIn path (← disk.find path)
  | none => do
    match ← disk.find defaultConfigPath with
    | .ok (.file content) => configIn defaultConfigPath (.ok (.file content))
    | _ => return .default

/-- The messages of an error of the setup; a missing directory has its fault as cause. -/
def setupChain : SetupError → List String
  | .scratchRoot path fault => [(SetupError.scratchRoot path fault).message, fault.message]
  | e => [e.message]

def pluginChain (e : PluginFault) : List String :=
  ["plugin '" ++ e.id ++ "'", e.reason.message]

/-- The loader of a configuration. -/
def Config.makeLoader [Monad m] (c : Config) (disk : Disk m) (host : List Symbol) :
    ExceptT (List String) m Loader := do
  let plugins ← c.registrations.mapError pluginChain
  (c.loader.makeScratchRoot disk).adapt setupChain
  (Loader.make c.loader [] host plugins).mapError setupChain

/-! ## Commands -/

/-- The messages of an error of an archive; a file that cannot be read has the reason as cause. -/
def archiveChain : ArchiveError → List String
  | .notText => [ArchiveError.notText.message, Archive.notTextMessage]
  | .unread fault => [(ArchiveError.unread fault).message, fault.message]
  | e => [e.message]

def readArchives [Monad m] (disk : Disk m) (directories : List String) :
    ExceptT (List String) m (List Archive) :=
  directories.mapM fun path => do
    let found ← disk.find path
    (Archive.ofDirectory path.toUTF8 found).mapError fun e =>
      ("reading archive " ++ path) :: archiveChain e

def additions (archives : List Archive) : ChangeSet :=
  archives.foldl .add ∅

def loadAll (l : Loader) (archives : List Archive) : Loader.Run :=
  l.reload .initial (additions archives) .never

/-- The lines of a report: the modules in the order of their builds, then the other ones. -/
def reportLines (cycle : String) (r : ReloadReport) : List String :=
  let line (id : ModuleId) (outcome : Outcome) := "  " ++ id.toString ++ ": " ++ outcome.message
  let built := r.order.filterMap fun id => (r.outcomes.find? id).map (line id)
  let others := (r.outcomes.entries.filter fun e => !r.order.contains e.1).map fun e =>
    line e.1 e.2
  ("reload " ++ cycle ++ " (snapshot " ++ r.version.repr ++ ")") :: built ++ others

/-- Why a command does not succeed that called a symbol without success. -/
def callFailure (target : InvokeTarget) : CallError → CommandFailure
  | .crashed message => .crashed message
  | e => .reported ["invoking " ++ target.module.toString ++ ":" ++ target.symbol, e.message]

/-- Calls a symbol as a published module sees it. -/
def callTarget (snapshot : Snapshot) (target : InvokeTarget) (args : List String) :
    Except CommandFailure Value :=
  match snapshot.find? target.module with
  | none => .error (.reported ["module '" ++ target.module.toString ++ "' is not published"])
  | some m => (m.invoke target.symbol (args.map argumentValue)).mapError (callFailure target)

/-- The failure of a command whose reload left modules out. -/
def failureOf (r : ReloadReport) : Option CommandFailure :=
  match r.failures.length with
  | 0 => none
  | count => some (.reported [count.repr ++ " module(s) failed to load"])

def runLoad (l : Loader) (cycle : String) (target : Option InvokeTarget) (args : List String)
    (archives : List Archive) : Transcript :=
  let run := loadAll l archives
  let lines := reportLines cycle run.report
  match target.mapM fun target => callTarget run.state.snapshot target args with
  | .error failure => { lines, failure := some failure }
  | .ok answer =>
    { lines := lines ++ answer.toList.map Value.display, failure := failureOf run.report }

/-- Shows in which order archives would be built. -/
def runOrder (archives : List Archive) : Transcript :=
  let r := Loader.resolveChanges .initial (additions archives)
  let tiers := r.tiers.zipIdx.map fun (tier, i) => "tier " ++ i.repr ++ ": " ++ joinIds ", " tier
  let rejected := r.rejected.entries.map fun (id, e) =>
    "rejected " ++ id.toString ++ ": " ++ e.message
  { lines := tiers ++ rejected, failure := none }

/-- The lines that show what a module sees: its own symbols, then every other one with its origin. -/
def inspectLines (m : CompiledModule) : List String :=
  let compiler := (m.compiler.map (·.text)).getD "no compiler"
  let title := m.id.toString ++ " r" ++ m.revision.repr ++ " [" ++ compiler ++ "] " ++
    Digest.short m.archive.hash
  let links := m.links.map fun l => "  links " ++ l.id.toString ++ " r" ++ l.revision.repr
  let line (name : String) (origin : Origin) := "  " ++ name ++ "  (" ++ origin.display ++ ")"
  let others := m.environment.boundary.visible.filter fun e => !m.symbols.contains e.1
  title :: links ++ m.symbols.names.map (line · .own) ++ others.map fun e => line e.1 e.2

def runInspect (l : Loader) (id : ModuleId) (archives : List Archive) : Transcript :=
  let run := loadAll l archives
  match run.state.snapshot.find? id, run.report.outcomes.find? id with
  | some m, _ => { lines := inspectLines m, failure := none }
  | none, some outcome =>
    .failed ["module '" ++ id.toString ++ "' is not published: " ++ outcome.message]
  | none, none => .failed ["module '" ++ id.toString ++ "' is not among the loaded archives"]

/-- Runs a command. What its words mean is settled before the directories are read. -/
def runCommand [Monad m] (l : Loader) (disk : Disk m) (cycle : String) :
    Command → ExceptT (List String) m Transcript
  | .load directories invoke args => do
    let target ← invoke.mapM fun text =>
      (InvokeTarget.parse text).mapError (TargetFault.chain text)
    return runLoad l cycle target args (← readArchives disk directories)
  | .order directories => return runOrder (← readArchives disk directories)
  | .inspect directories module => do
    let id ← (ModuleId.parse module).mapError fun e : IdError => [e.message]
    return runInspect l id (← readArchives disk directories)

def runInvocation [Monad m] (host : Host) (disk : Disk m) (i : Invocation) : m Transcript := do
  let attempt : ExceptT (List String) m Transcript := do
    let config ← configFor disk i.config
    let l ← config.makeLoader disk host.symbols
    runCommand l disk host.cycle i.command
  match ← attempt.run with
  | .error chain => return .failed chain
  | .ok transcript => return transcript

/-! ## Output -/

/-- What a program leaves when it ends. -/
structure Output where
  code : Nat
  stdout : String
  stderr : String
  deriving DecidableEq, Repr

def linesText (lines : List String) : String :=
  String.join (lines.map (· ++ "\n"))

def usage : String := linesText [
  "Usage: relink [--config <CONFIG>] <COMMAND>",
  "",
  "Commands:",
  "  load     <DIRS>... [--invoke <MODULE:SYMBOL>] [--arg <ARG>]...",
  "  order    <DIRS>...",
  "  inspect  <DIRS>... --module <MODULE>"]

def Transcript.output (t : Transcript) : Output :=
  match t.failure with
  | none => { code := 0, stdout := linesText t.lines, stderr := "" }
  | some (.reported chain) =>
    { code := 1
      stdout := linesText t.lines
      stderr := linesText ["error: " ++ ": ".intercalate chain] }
  | some (.crashed message) =>
    { code := 101, stdout := linesText t.lines, stderr := linesText [message] }

def run [Monad m] (host : Host) (disk : Disk m) (words : List String) : m Output :=
  match Request.ofWords words with
  | .version =>
    return { code := 0, stdout := linesText ["relink " ++ Builtin.runtimeVersion], stderr := "" }
  | .help => return { code := 0, stdout := usage, stderr := "" }
  | .misuse => return { code := 2, stdout := "", stderr := usage }
  | .run invocation => return (← runInvocation host disk invocation).output

end HotReload.CommandLine
