import HotReload.Backend.Basic

/-!
# Script modules

Entries whose names end with `.rls` are script sources, whose first name space is the name of the
module. Every definition becomes a function. No symbol may be defined twice. With link checking,
every symbol that a definition refers to must be one of the module, which then is called with as many
arguments as it takes, or one that the boundary resolves.
-/

namespace HotReload.Backend.Script

/-- The end of the names of script sources. -/
def suffix : String := ".rls"

/-- A definition and the entry it stands in. -/
structure Placed where
  entry : String
  definition : Definition

/-- The function that a definition makes. -/
def Placed.body (p : Placed) : Body :=
  .function (.script p.definition.name p.definition.body)

def Placed.failure (p : Placed) (cause : BuildCause) : BuildFailure :=
  .atLine p.entry p.definition.line cause

abbrev Definitions := SortedMap String Placed

/-- Adds a definition of a symbol that nothing defines so far. -/
def addDefinition (preloaded : SymbolTable) (definitions : Definitions) (p : Placed) :
    Except BuildFailure Definitions :=
  let name := p.definition.name
  if preloaded.contains name then .error (p.failure (.precompiled name))
  else
    match definitions.find? name with
    | some first =>
      .error (p.failure (.redefined name first.entry first.definition.line))
    | none => .ok (definitions.insert name p)

def readEntry (space entry : String) (content : ByteArray) : Except BuildFailure (List Placed) :=
  match Text.decode content with
  | .error fault => .error (.inEntry entry (.encoding fault))
  | .ok source =>
    match Definition.ofSource space source with
    | .error e => .error (.atLine entry e.line (.malformed e.fault))
    | .ok found => .ok (found.map fun definition => { entry, definition })

def addEntry (space : String) (preloaded : SymbolTable) (definitions : Definitions)
    (entry : String × ByteArray) : Except BuildFailure Definitions := do
  (← readEntry space entry.1 entry.2).foldlM (addDefinition preloaded) definitions

def definitionsOf (archive : Archive) (preloaded : SymbolTable) :
    Except BuildFailure Definitions :=
  (archive.withSuffix suffix).foldlM (addEntry archive.id.name preloaded) ∅

/-- What is wrong with a reference that passes `count` arguments to a symbol. -/
def linkFault? (definitions : Definitions) (preloaded : SymbolTable) (boundary : Boundary)
    (name : String) (count : Nat) : Option BuildCause :=
  match definitions.find? name with
  | some target =>
    let arity := target.definition.body.arity
    if arity = count then none else some (.arity name arity count)
  | none =>
    if preloaded.contains name then (if count = 0 then none else some (.constantCalled name))
    else if (boundary.resolve? name).isSome then none
    else some (.unresolved name)

/-- The first faulty reference, in the order of the names of the definitions. -/
def firstLinkFault? (definitions : Definitions) (preloaded : SymbolTable) (boundary : Boundary) :
    Option BuildFailure :=
  definitions.values.findSome? fun p =>
    (p.definition.body.references.findSome? fun (name, count) =>
      linkFault? definitions preloaded boundary name count).map p.failure

def define (table : SymbolTable) (p : Placed) : Except BuildFailure SymbolTable :=
  (table.defineBody p.definition.name p.body).mapError fun e => p.failure (.symbol e)

/-- Compiles the sources of an archive on top of symbols that the module has already. -/
def compileWith (linkCheck : Bool) (archive : Archive) (boundary : Boundary)
    (preloaded : SymbolTable) : Except BuildFailure SymbolTable := do
  let definitions ← definitionsOf archive preloaded
  if linkCheck then
    if let some failure := firstLinkFault? definitions preloaded boundary then throw failure
  definitions.values.foldlM define preloaded

end HotReload.Backend.Script

namespace HotReload

def Backend.script (linkCheck : Bool) : Backend where
  claims archive := archive.hasSuffix Backend.Script.suffix
  build archive boundary := .ofResult (Backend.Script.compileWith linkCheck archive boundary ∅)

end HotReload
