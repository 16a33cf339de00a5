import HotReload.Archive.Basic
import HotReload.FileSystem
import HotReload.ModuleSpec.Reader

/-!
# Archives in directories

A directory is an archive: its file `module.toml` holds the specification, and every other file below
it is an entry, named by its path inside the directory. Without that file the module is named after
the directory and declares nothing. The order in which directories list their files has no influence:
the entries are read in the order of their names, and the first one that cannot be read or added is the
reason of a failure.
-/

namespace HotReload

inductive DirectoryFault where
  | notDirectory
  | badDirectoryName
  | badFileName
  deriving DecidableEq, Repr

def DirectoryFault.message : DirectoryFault → String
  | .notDirectory => "not a directory"
  | .badDirectoryName => "directory name is not valid UTF-8"
  | .badFileName => "file name is not valid UTF-8"

/-- Why there is no archive at a path. -/
inductive ArchiveError where
  | unreadable (path : String) (fault : DirectoryFault)
  /-- The specification is not UTF-8. -/
  | notText
  | unread (fault : PathFault)
  | spec (fault : SpecFault)
  | id (error : IdError)
  | entry (error : EntryError)
  deriving DecidableEq

/-- What a reader of files says about a file that is not UTF-8. -/
def Archive.notTextMessage : String := "stream did not contain valid UTF-8"

def ArchiveError.message : ArchiveError → String
  | .unreadable path fault => "cannot read archive at " ++ path ++ ": " ++ fault.message
  | .notText => "I/O error: " ++ Archive.notTextMessage
  | .unread fault => "I/O error: " ++ fault.message
  | .spec fault => fault.message
  | .id error => error.message
  | .entry error => error.message

namespace Archive

/-- The file of a directory that holds the specification. -/
def specFileName : String := "module.toml"

/-- The text of each part of a file's path, with slashes between them. -/
def entryName? (path : List ByteArray) : Option String :=
  (path.mapM fun part => String.fromUTF8? part).map fun parts => "/".intercalate parts

/-- The path of a file below a directory, for messages. -/
def displayPath (directory : ByteArray) (file : List ByteArray) : String :=
  Text.decodeLossy (withSlash directory) ++ "/".intercalate (file.map Text.decodeLossy)

/-- The specification of the directory at a path. -/
def specOfDirectory (path : ByteArray) (entries : List (ByteArray × FileTree)) :
    Except ArchiveError ModuleSpec :=
  match FileTree.child? specFileName.toUTF8 entries with
  | some (.file content) =>
    match String.fromUTF8? content with
    | none => .error .notText
    | some text => (ModuleSpec.parse text).mapError .spec
  | _ =>
    match (pathName? path).bind String.fromUTF8? with
    | none => .error (.unreadable (Text.decodeLossy path) .badDirectoryName)
    | some name => ((ModuleId.ofName name).mapError .id).map .empty

/-- The entry that a file below the directory at a path stands for, with the content if it is within
reach. -/
def entryOfFile (path : ByteArray) (file : List ByteArray × Option ByteArray) :
    Except ArchiveError (String × Option ByteArray) :=
  match entryName? file.1 with
  | some name => .ok (name, file.2)
  | none => .error (.unreadable (displayPath path file.1) .badFileName)

def addFound (a : Archive) : String × Option ByteArray → Except ArchiveError Archive
  | (name, some content) => (a.add name content).mapError .entry
  | (_, none) => .error (.unread .tooLong)

/-- The archive in the directory at a path, which is only named in messages and, at its end, may name
the module. -/
def ofEntriesOfDirectory (path : ByteArray) (entries : List (ByteArray × FileTree)) :
    Except ArchiveError Archive := do
  let spec ← specOfDirectory path entries
  let found ← (FileTree.filesOf entries).mapM (entryOfFile path)
  let sorted := found.mergeSort fun a b => (compare a.1 b.1).isLE
  let kept := sorted.filter fun e => e.1 != specFileName
  kept.foldlM addFound (ofSpec spec)

def ofDirectory (path : ByteArray) (found : Except PathFault FileTree) :
    Except ArchiveError Archive :=
  match found with
  | .ok (.directory entries) => ofEntriesOfDirectory path entries
  | _ => .error (.unreadable (Text.decodeLossy path) .notDirectory)

end Archive

end HotReload
