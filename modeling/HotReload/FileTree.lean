import HotReload.Text.Utf8

/-!
# File trees

A directory with everything below it. Names are byte strings, as a file system keeps them, and the
entries of a directory stand in the order in which it lists them. A path is a byte string too: its parts
between slashes are names and steps. A path has a limited length, so a deep tree, or one that is looked
at through a long path, has parts that are out of reach.
-/

namespace HotReload

inductive FileTree where
  | file (content : ByteArray)
  | directory (entries : List (ByteArray × FileTree))
  /-- Something whose path is too long for a look at it. -/
  | outOfReach
  deriving Inhabited

/-- The number of bytes that a name may have. -/
def nameLimit : Nat := 255

/-- The number of bytes that a path must stay below. -/
def pathLimit : Nat := 4096

/-- The parts of a path between its slashes. -/
def pathParts (path : ByteArray) : List ByteArray :=
  (path.data.toList.splitOn '/'.toUInt8).map fun part => ⟨part.toArray⟩

/-- The name that a path leads to: its last part, unless that is a step up or there is none. -/
def pathName? (path : ByteArray) : Option ByteArray :=
  match (pathParts path).filter fun part => part != .empty && part != ".".toUTF8 with
  | [] => none
  | part :: parts =>
    let last := (part :: parts).getLast (by simp)
    if last == "..".toUTF8 then none else some last

/-- A path with a slash at its end, which comes before the names of whatever stands in the directory. -/
def withSlash (path : ByteArray) : ByteArray :=
  if path.data.back? == some '/'.toUInt8 then path else path.push '/'.toUInt8

namespace FileTree

/-- The entry of a directory with a name. -/
def child? (name : ByteArray) (entries : List (ByteArray × FileTree)) : Option FileTree :=
  (entries.find? fun e => e.1 == name).map (·.2)

/-- The entries of a directory with another tree under the given name, which is in its old place or, if
it is new, at the end. -/
def putChild (name : ByteArray) (tree : FileTree) (entries : List (ByteArray × FileTree)) :
    List (ByteArray × FileTree) :=
  if (child? name entries).isSome then
    entries.map fun e => if e.1 == name then (name, tree) else e
  else entries ++ [(name, tree)]

/-- Changes what stands under some names, one below the other; directories on the way are made, also in
the place of files. -/
def alter (change : Option FileTree → FileTree) : Option FileTree → List ByteArray → FileTree
  | old, [] => change old
  | old, name :: names =>
    let entries :=
      match old with
      | some (.directory entries) => entries
      | _ => []
    .directory (putChild name (alter change (child? name entries) names) entries)

mutual

/-- The files of a tree: for each its path inside the tree and, if it is within reach, its content.
Nobody can tell that something out of reach is no file. -/
def files : FileTree → List (List ByteArray × Option ByteArray)
  | .file content => [([], some content)]
  | .directory entries => filesOf entries
  | .outOfReach => [([], none)]

def filesOf : List (ByteArray × FileTree) → List (List ByteArray × Option ByteArray)
  | [] => []
  | (name, tree) :: rest =>
    tree.files.map (fun (path, content) => (name :: path, content)) ++ filesOf rest

end

mutual

/-- What a tree looks like through a path of `size` bytes. -/
def through (size : Nat) : FileTree → FileTree
  | .file content => if size < pathLimit then .file content else .outOfReach
  | .directory entries =>
    if size < pathLimit then .directory (entriesThrough (size + 1) entries) else .outOfReach
  | .outOfReach => .outOfReach

/-- What entries of a directory look like if `size` bytes come before their names. -/
def entriesThrough (size : Nat) : List (ByteArray × FileTree) → List (ByteArray × FileTree)
  | [] => []
  | (name, tree) :: rest => (name, tree.through (size + name.size)) :: entriesThrough size rest

end

/-- What stands at a path, as far as longer paths can reach it. -/
def seenFrom (path : ByteArray) : FileTree → FileTree
  | .directory entries => .directory (entriesThrough (withSlash path).size entries)
  | tree => tree

end FileTree

end HotReload
