import HotReload.FileTree

/-!
# File systems

What a path leads to, and how directories come about. A path is followed part by part: an empty part
and `.` stay in a directory, `..` leads to the one above it, and the root has itself above it. A path
that starts with a slash starts at the root and any other in the working directory.
-/

namespace HotReload

/-- Why a path leads nowhere, or why no directory can be made at it. -/
inductive PathFault where
  | notFound
  /-- Something stands there already. -/
  | alreadyExists
  /-- A file stands where the path needs a directory. -/
  | notDirectory
  /-- A directory stands where a file is needed. -/
  | isDirectory
  /-- The path or one of its parts is too long. -/
  | tooLong
  /-- The path holds a zero byte. -/
  | zeroByte
  /-- Whatever else the system says. -/
  | other (words : String)
  deriving DecidableEq, Repr

def PathFault.message : PathFault → String
  | .notFound => "No such file or directory (os error 2)"
  | .alreadyExists => "File exists (os error 17)"
  | .notDirectory => "Not a directory (os error 20)"
  | .isDirectory => "Is a directory (os error 21)"
  | .tooLong => "File name too long (os error 36)"
  | .zeroByte => "file name contained an unexpected NUL byte"
  | .other words => words

/-- The fault of a path itself, whatever it leads to. -/
def pathFault? (path : ByteArray) : Option PathFault :=
  if path.data.contains 0 then some .zeroByte
  else if path.isEmpty then some .notFound
  else if pathLimit ≤ path.size then some .tooLong
  else none

/-- The part of a path that stays in a directory. -/
def stay : ByteArray := ".".toUTF8

/-- The part of a path that leads to the directory above. -/
def stepUp : ByteArray := "..".toUTF8

/-- Whether a part of a path leads nowhere else. -/
def isStill (part : ByteArray) : Bool :=
  part.isEmpty || part == stay

/-! ## Places -/

/-- A place in a tree: what stands there, and the names and the directories on the way to it, the
nearest first. -/
structure Place where
  tree : FileTree
  above : List (ByteArray × List (ByteArray × FileTree))

namespace Place

def root (tree : FileTree) : Place where
  tree
  above := []

/-- The directory above a place. -/
def up (here : Place) : Place :=
  match here.above with
  | [] => here
  | (_, entries) :: above => { tree := .directory entries, above }

def follow (here : Place) : List ByteArray → Except PathFault Place
  | [] => .ok here
  | part :: parts =>
    match here.tree with
    | .file _ => .error .notDirectory
    | .outOfReach => .error .tooLong
    | .directory entries =>
      if isStill part then here.follow parts
      else if part == stepUp then here.up.follow parts
      else if nameLimit < part.size then .error .tooLong
      else
        match FileTree.child? part entries with
        | none => .error .notFound
        | some tree => follow { tree, above := (part, entries) :: here.above } parts

/-- The whole tree with `tree` at this place. -/
def rebuild (here : Place) (tree : FileTree) : FileTree :=
  here.above.foldl (fun tree (name, entries) => .directory (FileTree.putChild name tree entries)) tree

end Place

/-! ## File systems -/

/-- All files and directories, and the working directory. -/
structure FileSystem where
  root : FileTree
  /-- The names that lead from the root to the working directory. -/
  home : List ByteArray

namespace FileSystem

/-- A file system in which the files below a directory stand in the working directory. -/
def around (tree : FileTree) : FileSystem where
  root := .directory [("home".toUTF8, tree)]
  home := ["home".toUTF8]

/-- The place that the parts of a path lead to. Only a path that starts with a slash has an empty part
in front. -/
def follow (fs : FileSystem) (parts : List ByteArray) : Except PathFault Place :=
  (Place.root fs.root).follow (if parts.head? == some .empty then parts else fs.home ++ parts)

/-- What stands at a path, as it is seen from there. -/
def find (fs : FileSystem) (path : ByteArray) : Except PathFault FileTree :=
  match pathFault? path with
  | some fault => .error fault
  | none => (fs.follow (pathParts path)).map (·.tree.seenFrom path)

/-- Makes a directory at the path with the given parts, latest first. -/
def makeDirectory (fs : FileSystem) (parts : List ByteArray) : Except PathFault FileSystem :=
  match parts.dropWhile (·.isEmpty) with
  | [] => .error .alreadyExists
  | name :: above => do
    let parent ← fs.follow above.reverse
    match parent.tree with
    | .file _ => throw .notDirectory
    | .outOfReach => throw .tooLong
    | .directory entries =>
      if name == stay || name == stepUp then throw .alreadyExists
      else if nameLimit < name.size then throw .tooLong
      else if (FileTree.child? name entries).isSome then throw .alreadyExists
      else
        let entries := FileTree.putChild name (.directory []) entries
        return { fs with root := parent.rebuild (.directory entries) }

/-- Makes a directory at the path with the given parts, latest first, unless there is one. -/
def ensureDirectory (fs : FileSystem) (parts : List ByteArray) : Except PathFault FileSystem :=
  match fs.makeDirectory parts, fs.follow parts.reverse with
  | .ok fs, _ => .ok fs
  | .error _, .ok { tree := .directory _, .. } => .ok fs
  | .error fault, _ => .error fault

/-- The parts of the path to the directory above, latest first. -/
def parentParts (parts : List ByteArray) : List ByteArray :=
  ((parts.dropWhile isStill).drop 1).dropWhile isStill

theorem length_parentParts_le (parts : List ByteArray) :
    (parentParts parts).length ≤ parts.length - 1 := by
  have outer :=
    (List.dropWhile_sublist isStill (l := (parts.dropWhile isStill).drop 1)).length_le
  have inner := (List.dropWhile_sublist isStill (l := parts)).length_le
  simp only [List.length_drop] at outer
  simp only [parentParts]
  omega

/-- Makes a directory at the path with the given parts, latest first, and those on the way to it. -/
def ensureDirectories (fs : FileSystem) : List ByteArray → Except PathFault FileSystem
  | [] => .ok fs
  | part :: parts =>
    match fs.ensureDirectory (part :: parts) with
    | .error .notFound => do
      (← fs.ensureDirectories (parentParts (part :: parts))).ensureDirectory (part :: parts)
    | outcome => outcome
  termination_by parts => parts.length
  decreasing_by
    have := length_parentParts_le (part :: parts)
    simp at this ⊢
    omega

/-- Makes a directory and those on the way to it, unless they are there. -/
def makeDirectories (fs : FileSystem) (path : ByteArray) : Except PathFault FileSystem :=
  if path.isEmpty then .ok fs
  else
    match pathFault? path with
    | some fault => .error fault
    | none => fs.ensureDirectories (pathParts path).reverse

end FileSystem

/-! ## Disks -/

/-- What a program may do with the files of its machine. -/
structure Disk (m : Type → Type) where
  /-- What stands at a path. -/
  find : String → m (Except PathFault FileTree)
  /-- Makes a directory and those on the way to it, unless they are there. -/
  makeDirectories : String → m (Except PathFault Unit)

/-- The disk that holds the file system of a state. -/
def FileSystem.disk : Disk (StateM FileSystem) where
  find path := return (← get).find path.toUTF8
  makeDirectories path := do
    match (← get).makeDirectories path.toUTF8 with
    | .ok fs =>
      set fs
      return .ok ()
    | .error fault => return .error fault

end HotReload
