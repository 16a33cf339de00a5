import HotReload.Name
import HotReload.Toml.Decode

/-!
# Loader configuration

The settings of a loader, read from a table in TOML in which every field may be missing. A
configuration is sound if builds have time to run, at least one may run at once, and the exposed
packages are dotted names.
-/

namespace HotReload

structure LoaderConfig where
  /-- The directory for scratch directories; without one the system decides. -/
  scratchRoot : Option String
  /-- The number of milliseconds that a build may take. -/
  timeout : Nat
  /-- How many builds of one tier may run at once. -/
  parallel : Nat
  /-- Whether scratch directories stay after a build. -/
  keepScratch : Bool
  /-- The packages of the host that modules may import. -/
  exposed : List String
  deriving DecidableEq, Repr

inductive ConfigFault where
  | noTime
  | noBuilds
  | badPackage (package : String) (fault : NameFault)
  deriving DecidableEq, Repr

def ConfigFault.message (fault : ConfigFault) : String :=
  "invalid loader configuration: " ++
    match fault with
    | .noTime => "build-timeout-ms must be positive"
    | .noBuilds => "max-parallel-builds must be at least 1"
    | .badPackage package fault => "exposed package '" ++ package ++ "': " ++ fault.message

/-- Why a document is no sound configuration. -/
inductive ConfigError where
  | document (error : Toml.Error)
  | unsound (fault : ConfigFault)
  deriving DecidableEq, Repr

def ConfigError.message : ConfigError → String
  | .document error => error.message
  | .unsound fault => fault.message

namespace LoaderConfig

/-- The settings of an empty table: builds may take half a minute, and as many may run at once as a
common machine has processors. -/
def default : LoaderConfig where
  scratchRoot := none
  timeout := 30000
  parallel := 4
  keepScratch := false
  exposed := []

instance : Inhabited LoaderConfig := ⟨default⟩

def fields : List (Toml.Field LoaderConfig) := [
  .of "scratch-root" Toml.Value.asText fun c root => { c with scratchRoot := some root },
  .of "build-timeout-ms" Toml.Value.asNatural fun c timeout => { c with timeout },
  .of "max-parallel-builds" Toml.Value.asNatural fun c parallel => { c with parallel },
  .of "keep-scratch" Toml.Value.asFlag fun c keepScratch => { c with keepScratch },
  .of "exposed-packages" (Toml.Value.asList Toml.Value.asText) fun c exposed =>
    { c with exposed }]

def read (v : Toml.Value) : Except Toml.Error LoaderConfig :=
  v.asRecord fields default

def fault? (c : LoaderConfig) : Option ConfigFault :=
  if c.timeout = 0 then some .noTime
  else if c.parallel = 0 then some .noBuilds
  else c.exposed.findSome? fun package => (NameFault.of? package).map (.badPackage package)

def check (c : LoaderConfig) : Except ConfigFault LoaderConfig :=
  match c.fault? with
  | some fault => .error fault
  | none => .ok c

def parse (text : String) : Except ConfigError LoaderConfig := do
  let c ← ((Toml.document text).bind read).mapError .document
  c.check.mapError .unsound

end LoaderConfig

end HotReload
