import HotReload.CommandLine.Run

/-!
# The program

Runs a command line on the disk of the machine and prints what it leaves.
-/

namespace HotReload.CommandLine

/-- What an error of the system says about a path. The number of a name that is too long comes with
either sign. -/
def faultOf : IO.Error → PathFault
  | .noFileOrDirectory .. => .notFound
  | .alreadyExists .. => .alreadyExists
  | .inappropriateType .. => .notDirectory
  | e@(.invalidArgument _ code _) =>
    if code = 36 ∨ code = -36 then .tooLong else .other (toString e)
  | e => .other (toString e)

/-- Reads a file or a directory with everything below it. -/
partial def readTree (entry : IO.FS.DirEntry) : IO FileTree := do
  if ← entry.path.isDir then
    let children ← entry.path.readDir
    let read ← children.toList.mapM fun child => return (child.fileName.toUTF8, ← readTree child)
    return .directory read
  else
    match ← (IO.FS.readBinFile entry.path).toBaseIO with
    | .ok content => return .file content
    | .error e => if faultOf e = .tooLong then return .outOfReach else throw e

/-- A path that is taken from the working directory. -/
def entryAt (path : String) : IO.FS.DirEntry where
  root := "."
  fileName := path

def attempt (action : IO α) : IO (Except PathFault α) := do
  match ← action.toBaseIO with
  | .ok a => return .ok a
  | .error e => return .error (faultOf e)

/-- The disk of the machine. -/
def machineDisk : Disk IO where
  find path := attempt do
    let _ ← (entryAt path).path.metadata
    readTree (entryAt path)
  makeDirectories path := attempt do
    if !path.isEmpty then IO.FS.createDirAll (entryAt path).path

/-- The file in which the system describes the running process; its first word is the number of the
process, and it is as old as the moment it is looked at. -/
def processFile : IO.FS.DirEntry where
  root := "/proc/self"
  fileName := "stat"

/-- A name with so many random bits that no other reload has it. -/
def newCycle : IO String := do
  let digits ← (List.range 32).mapM fun _ => return Nat.digitChar (← IO.rand 0 15)
  let parts := [(0, 8), (8, 4), (12, 4), (16, 4), (20, 12)]
  return "-".intercalate (parts.map fun (start, size) => .ofList ((digits.drop start).take size))

def askHost : IO Host := do
  let words := (← IO.FS.readFile processFile.path).splitOn " "
  let time := (← processFile.path.metadata).modified
  let now := time.sec.toNat * 1000 + time.nsec.toNat / 1000000
  return { processId := (words.head?.bind (·.toNat?)).getD 0, now, cycle := ← newCycle }

end HotReload.CommandLine

open HotReload.CommandLine in
def main (words : List String) : IO UInt32 := do
  let output ← run (← askHost) machineDisk words
  IO.print output.stdout
  IO.eprint output.stderr
  return .ofNat output.code
