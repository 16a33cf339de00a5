import HotReload.Symbol.Basic

/-!
# Environments

A boundary is everything that a module may see besides its own symbols: the core symbols, the symbols
of the modules it is linked to, the runtime symbols of its compiler plugins and the host symbols it
was granted. An environment adds the module's own symbols. Look-up goes through these sources in that
order and the first that defines a name wins; a linked module's symbol runs in that module's own
environment.
-/

namespace HotReload

/-- What one module sees besides its own symbols, for a type of environments. -/
structure BoundaryOf (ε : Type) where
  /-- The module that the boundary is for. -/
  module : ModuleId
  core : SymbolTable
  /-- The linked modules, in the order of look-up. -/
  dependencies : List (Linked ε)
  /-- The runtime symbols of the declared plugins, in the order of look-up. -/
  plugins : List (PluginId × SymbolTable)
  /-- The host symbols that the module was granted. -/
  host : SymbolTable

/-- A compiled module at run time: its boundary and its own symbols. -/
structure Environment where
  boundary : BoundaryOf Environment
  own : SymbolTable

/-- What one module sees besides its own symbols. -/
abbrev Boundary := BoundaryOf Environment

abbrev LinkedModule := Linked Environment

mutual

/-- What can be read of an environment. -/
def Environment.view : Environment → EnvironmentView
  | ⟨boundary, own⟩ => boundary.viewWith own.view

/-- What can be read of an environment with a boundary and own symbols. -/
def BoundaryOf.viewWith (own : TableView) : Boundary → EnvironmentView
  | ⟨module, core, dependencies, plugins, host⟩ => {
      module
      own
      core := core.view
      dependencies := linkViews dependencies
      plugins := plugins.map fun (id, runtime) => (id, runtime.view)
      host := host.view }

/-- What can be read of linked modules. -/
def linkViews : List LinkedModule → List (Linked (Unit → EnvironmentView))
  | [] => []
  | d :: dependencies => d.view :: linkViews dependencies

/-- What can be read of a linked module. -/
def Linked.view : LinkedModule → Linked (Unit → EnvironmentView)
  | ⟨id, revision, environment⟩ => ⟨id, revision, fun _ => environment.view⟩

end

/-- Where a symbol was found. -/
inductive Origin where
  | own
  | core
  | dependency (module : ModuleId) (revision : Nat)
  | plugin (id : PluginId)
  | host
  deriving DecidableEq

def Origin.display : Origin → String
  | .own => "own"
  | .core => "core"
  | .dependency module revision => "dependency " ++ module.toString ++ " r" ++ revision.repr
  | .plugin id => "plugin " ++ id.text
  | .host => "host"

/-- A symbol that was looked up. -/
structure Resolved where
  name : String
  body : Body
  origin : Origin
  /-- The environment that the symbol runs in, if not the one that looked it up. -/
  owner : Option Environment

/-- One table that a look-up goes through. -/
structure Source where
  origin : Origin
  table : SymbolTable
  /-- The environment that its symbols run in, if not the one that looks them up. -/
  owner : Option Environment

/-- The symbol of a name in one source. -/
def Source.find? (source : Source) (name : String) : Option Resolved :=
  (source.table.find? name).map fun body => ⟨name, body, source.origin, source.owner⟩

/-- The names of a list with what they are paired with, each name only where it comes first; the
names in `seen` are left out. -/
def firstOfEach (seen : List String) : List (String × α) → List (String × α)
  | [] => []
  | (name, a) :: rest =>
    if seen.contains name then firstOfEach seen rest
    else (name, a) :: firstOfEach (name :: seen) rest

namespace BoundaryOf

/-- A boundary that exposes nothing but core symbols. -/
def ofCore (module : ModuleId) (core : SymbolTable) : Boundary where
  module
  core
  dependencies := []
  plugins := []
  host := ∅

/-- The sources of a boundary in the order of look-up. -/
def sources (b : Boundary) : List Source :=
  [⟨.core, b.core, none⟩] ++
    b.dependencies.map (fun d =>
      ⟨.dependency d.id d.revision, d.environment.own, some d.environment⟩) ++
    b.plugins.map (fun p => ⟨.plugin p.1, p.2, none⟩) ++
    [⟨.host, b.host, none⟩]

def resolve? (b : Boundary) (name : String) : Option Resolved :=
  b.sources.findSome? (·.find? name)

def links (b : Boundary) (id : ModuleId) : Bool :=
  b.dependencies.any (·.id = id)

/-- Every visible name with the origin that wins for it, in the order of the sources. -/
def visible (b : Boundary) : List (String × Origin) :=
  firstOfEach [] (b.sources.flatMap fun source => source.table.names.map (·, source.origin))

end BoundaryOf

namespace Environment

/-- The environment of an anonymous module that sees nothing. -/
def detached : Environment where
  boundary := .ofCore .anonymous ∅
  own := ∅

def module (env : Environment) : ModuleId :=
  env.boundary.module

def resolve? (env : Environment) (name : String) : Option Resolved :=
  match env.own.find? name with
  | some body => some ⟨name, body, .own, none⟩
  | none => env.boundary.resolve? name

/-- The environment that is reached over linked modules, each given by its place among those that the
one before is linked to. A link that is not there leads nowhere else. -/
def along : Environment → List Nat → Environment
  | env, [] => env
  | env, place :: way =>
    match env.boundary.dependencies[place]? with
    | some d => d.environment.along way
    | none => env

/-- Looks a name up; a name outside the boundary is hidden. -/
def resolve (env : Environment) (name : String) : Except CallError Resolved :=
  match env.resolve? name with
  | some resolved => .ok resolved
  | none => .error (.hidden env.module name)

end Environment

end HotReload
