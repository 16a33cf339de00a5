import HotReload.Backend.Script
import HotReload.Backend.Symbols

/-!
# Modules of scripts and symbol tables

The constants of the symbol tables are loaded first; the scripts are compiled on top of them and may
refer to them.
-/

namespace HotReload.Backend

/-- Loads the symbol tables of an archive and compiles its scripts on top of them. -/
def Mixed.compile (linkCheck : Bool) (archive : Archive) (boundary : Boundary) :
    Except BuildFailure SymbolTable := do
  Script.compileWith linkCheck archive boundary (← Symbols.load archive)

def mixed (linkCheck : Bool) : Backend where
  claims archive := archive.hasSuffix Script.suffix || archive.hasSuffix Symbols.suffix
  build archive boundary := .ofResult (Mixed.compile linkCheck archive boundary)

end HotReload.Backend
