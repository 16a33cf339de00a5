import HotReload.FileSystem
import Mathlib.Data.List.Nodup

/-!
# Trees of files and directories

The files of a plain tree, which has only files and directories in it and texts for names: the listing
of a tree holds just its files (`FileTree.mem_files_iff`), each once (`FileTree.nodup_paths`), in
whatever order directories list what stands in them. A tree on a disk is seen as it is if all paths in it
are short enough (`FileTree.seenFrom_eq_self`); otherwise something is seen without its content
(`FileTree.exists_unread`).
-/

namespace HotReload

instance lawfulBEqByteArray : LawfulBEq ByteArray where
  eq_of_beq {a b} h := ByteArray.ext (eq_of_beq (show (a.data == b.data) = true from h))
  rfl {a} := beq_self_eq_true a.data

/-- A name that a directory can give: a text without slash that is no step. -/
structure IsFileName (name : String) : Prop where
  ne_empty : name ≠ ""
  ne_stay : name ≠ "."
  ne_stepUp : name ≠ ".."
  noSlash : '/' ∉ name.toList

instance (name : String) : Decidable (IsFileName name) :=
  decidable_of_iff (name ≠ "" ∧ name ≠ "." ∧ name ≠ ".." ∧ '/' ∉ name.toList)
    ⟨fun ⟨h₁, h₂, h₃, h₄⟩ => ⟨h₁, h₂, h₃, h₄⟩, fun ⟨h₁, h₂, h₃, h₄⟩ => ⟨h₁, h₂, h₃, h₄⟩⟩

namespace FileTree

/-- A tree of files and directories. A directory gives a name to everything in it and no name twice. -/
inductive IsPlain : FileTree → Prop where
  | file (content : ByteArray) : IsPlain (.file content)
  | directory {entries : List (ByteArray × FileTree)}
      (hnames : ∀ e ∈ entries, ∃ name, IsFileName name ∧ e.1 = name.toUTF8)
      (hnodup : (entries.map Prod.fst).Nodup)
      (hplain : ∀ e ∈ entries, IsPlain e.2) : IsPlain (.directory entries)

/-- Whether the names lead, one below the other, to a file with the content. -/
inductive HasFile : FileTree → List String → ByteArray → Prop where
  | here (content : ByteArray) : HasFile (.file content) [] content
  | inside {entries : List (ByteArray × FileTree)} {name : String} {tree : FileTree}
      {names : List String} {content : ByteArray} (hmem : (name.toUTF8, tree) ∈ entries)
      (h : HasFile tree names content) : HasFile (.directory entries) (name :: names) content

/-- Whether the names lead, one below the other, to something. -/
inductive HasPath : FileTree → List String → Prop where
  | here (tree : FileTree) : HasPath tree []
  | inside {entries : List (ByteArray × FileTree)} {name : String} {tree : FileTree}
      {names : List String} (hmem : (name.toUTF8, tree) ∈ entries) (h : HasPath tree names) :
      HasPath (.directory entries) (name :: names)

/-- A directory with things under some names. -/
def named (entries : List (String × FileTree)) : FileTree :=
  .directory (entries.map fun e => (e.1.toUTF8, e.2))

theorem isPlain_named {entries : List (String × FileTree)} (hnames : ∀ e ∈ entries, IsFileName e.1)
    (hnodup : (entries.map Prod.fst).Nodup) (hplain : ∀ e ∈ entries, e.2.IsPlain) :
    (named entries).IsPlain := by
  refine .directory ?_ ?_ ?_
  · intro e he
    obtain ⟨⟨name, tree⟩, hmem, rfl⟩ := List.mem_map.mp he
    exact ⟨name, hnames _ hmem, rfl⟩
  · have hmap : (entries.map fun e => (e.1.toUTF8, e.2)).map Prod.fst =
        (entries.map Prod.fst).map String.toUTF8 := by
      rw [List.map_map, List.map_map]
      rfl
    rw [hmap]
    exact hnodup.map fun _ _ => String.toByteArray_inj.mp
  · intro e he
    obtain ⟨⟨name, tree⟩, hmem, rfl⟩ := List.mem_map.mp he
    exact hplain _ hmem

theorem hasPath_file_iff {content : ByteArray} {names : List String} :
    (file content).HasPath names ↔ names = [] := by
  constructor
  · rintro ⟨⟩
    rfl
  · rintro rfl
    exact .here _

theorem hasPath_named_cons_iff {entries : List (String × FileTree)} {name : String}
    {names : List String} :
    (named entries).HasPath (name :: names) ↔ ∃ tree, (name, tree) ∈ entries ∧ tree.HasPath names := by
  constructor
  · intro h
    cases h with
    | inside hmem h =>
      obtain ⟨⟨name', tree⟩, hentry, heq⟩ := List.mem_map.mp hmem
      obtain ⟨hname, rfl⟩ := Prod.mk.inj heq
      obtain rfl : name' = name := String.toByteArray_inj.mp hname
      exact ⟨tree, hentry, h⟩
  · rintro ⟨tree, hentry, h⟩
    exact .inside (List.mem_map_of_mem hentry) h

variable {tree : FileTree} {entries : List (ByteArray × FileTree)} {names : List String}
  {content : ByteArray}

theorem child?_eq_some_iff {name : ByteArray} (hnodup : (entries.map Prod.fst).Nodup) :
    child? name entries = some tree ↔ (name, tree) ∈ entries := by
  induction entries with
  | nil => exact ⟨nofun, nofun⟩
  | cons e entries ih =>
    obtain ⟨hnew, hrest⟩ := List.nodup_cons.mp hnodup
    unfold child? at ih ⊢
    rw [List.find?_cons, List.mem_cons]
    split
    next hsame =>
      obtain rfl := eq_of_beq hsame
      have hlater : (e.1, tree) ∉ entries := fun hmem =>
        hnew (List.mem_map.mpr ⟨_, hmem, rfl⟩)
      rw [Option.map_some, Option.some.injEq, or_iff_left hlater]
      exact ⟨fun heq => Prod.ext rfl heq.symm, fun heq => congrArg Prod.snd heq.symm⟩
    next hother =>
      have hne : (name, tree) ≠ e := by
        rintro rfl
        rw [beq_self_eq_true] at hother
        cases hother
      rw [ih hrest, or_iff_right hne]

theorem filesOf_eq_flatMap : filesOf entries =
    entries.flatMap fun e => e.2.files.map fun (path, content) => (e.1 :: path, content) := by
  induction entries with
  | nil => rfl
  | cons e entries ih =>
    obtain ⟨name, tree⟩ := e
    rw [filesOf, List.flatMap_cons, ih]

/-- The listing holds the files of the tree and nothing else. -/
theorem mem_files_iff (h : tree.IsPlain) {path : List ByteArray} {found : Option ByteArray} :
    (path, found) ∈ tree.files ↔ ∃ names content, tree.HasFile names content ∧
      path = names.map String.toUTF8 ∧ found = some content := by
  induction h generalizing path found with
  | file content =>
    rw [files, List.mem_singleton, Prod.mk.injEq]
    constructor
    · rintro ⟨rfl, rfl⟩
      exact ⟨[], content, .here content, rfl, rfl⟩
    · rintro ⟨names, content', ⟨⟩, rfl, rfl⟩
      exact ⟨rfl, rfl⟩
  | @directory entries hnames _ _ ih =>
    rw [files, filesOf_eq_flatMap, List.mem_flatMap]
    constructor
    · rintro ⟨⟨bytes, tree⟩, hmem, hfound⟩
      obtain ⟨⟨path', found'⟩, hlisted, heq⟩ := List.mem_map.mp hfound
      cases heq
      obtain ⟨name, -, hname⟩ := hnames _ hmem
      obtain rfl : bytes = name.toUTF8 := hname
      obtain ⟨names, content, hfile, rfl, rfl⟩ := (ih _ hmem).mp hlisted
      exact ⟨name :: names, content, .inside hmem hfile, rfl, rfl⟩
    · rintro ⟨names, content, hfile, rfl, rfl⟩
      cases hfile with
      | @inside _ name tree names _ hmem hfile =>
        have hlisted := (ih _ hmem).mpr ⟨names, content, hfile, rfl, rfl⟩
        exact ⟨(name.toUTF8, tree), hmem, List.mem_map.mpr ⟨_, hlisted, rfl⟩⟩

/-- The listing holds no file twice. -/
theorem nodup_paths (h : tree.IsPlain) : (tree.files.map Prod.fst).Nodup := by
  induction h with
  | file content => exact List.nodup_singleton []
  | @directory entries _ hnodup _ ih =>
    have hpaths : (filesOf entries).map Prod.fst =
        entries.flatMap fun e => (e.2.files.map Prod.fst).map (e.1 :: ·) := by
      rw [filesOf_eq_flatMap, List.map_flatMap]
      refine List.flatMap_congr fun e _ => ?_
      rw [List.map_map, List.map_map]
      rfl
    rw [files, hpaths, List.nodup_flatMap]
    constructor
    · intro e he
      exact (ih e he).map fun _ _ heq => (List.cons.inj heq).2
    · -- What stands under different names has different paths.
      refine (List.pairwise_map.mp hnodup).imp ?_
      intro e e' hne path hpath hpath'
      obtain ⟨_, -, rfl⟩ := List.mem_map.mp hpath
      obtain ⟨_, -, heq⟩ := List.mem_map.mp hpath'
      exact hne (List.cons.inj heq).1.symm

theorem HasFile.isFileName (hfile : tree.HasFile names content) (h : tree.IsPlain) :
    ∀ name ∈ names, IsFileName name := by
  induction hfile with
  | here => exact fun _ hname => nomatch hname
  | @inside entries name tree names content hmem _ ih =>
    cases h with
    | directory hnames _ hplain =>
      obtain ⟨name', hlegal, heq⟩ := hnames _ hmem
      obtain rfl : name = name' := String.toByteArray_inj.mp heq
      exact List.forall_mem_cons.mpr ⟨hlegal, ih (hplain _ hmem)⟩

/-- The names that lead to a file lead to something. -/
theorem HasFile.hasPath (h : tree.HasFile names content) : tree.HasPath names := by
  induction h with
  | here content => exact .here _
  | inside hmem _ ih => exact .inside hmem ih

/-- A file in a directory has a name. -/
theorem HasFile.ne_nil (h : (directory entries).HasFile names content) : names ≠ [] := by
  cases h with
  | inside => exact List.cons_ne_nil _ _

/-- The files that stand right in a directory. -/
theorem hasFile_singleton_iff {name : String} :
    (directory entries).HasFile [name] content ↔ (name.toUTF8, .file content) ∈ entries := by
  constructor
  · intro h
    cases h with
    | inside hmem h =>
      cases h
      exact hmem
  · exact fun hmem => .inside hmem (.here content)

/-! ### Trees as they are seen -/

/-- The bytes that names take up in a path, each with a slash before it. -/
def pathSize : List String → Nat
  | [] => 0
  | name :: names => 1 + name.utf8ByteSize + pathSize names

theorem entriesThrough_eq_map (size : Nat) : entriesThrough size entries =
    entries.map fun e => (e.1, e.2.through (size + e.1.size)) := by
  induction entries with
  | nil => rfl
  | cons e entries ih =>
    obtain ⟨name, tree⟩ := e
    rw [entriesThrough, ih, List.map_cons]

theorem through_of_le {size : Nat} (h : pathLimit ≤ size) (tree : FileTree) :
    tree.through size = .outOfReach := by
  cases tree with
  | file content => rw [through, if_neg (Nat.not_lt_of_le h)]
  | directory entries => rw [through, if_neg (Nat.not_lt_of_le h)]
  | outOfReach => rfl

theorem through_eq_self {size : Nat} (h : tree.IsPlain)
    (hshort : ∀ names, tree.HasPath names → size + pathSize names < pathLimit) :
    tree.through size = tree := by
  have hsize : size < pathLimit := hshort [] (.here tree)
  induction h generalizing size with
  | file content => rw [through, if_pos hsize]
  | @directory entries hnames _ _ ih =>
    rw [through, if_pos hsize, entriesThrough_eq_map]
    refine congrArg directory ((List.map_congr_left fun e he => ?_).trans (List.map_id _))
    obtain ⟨name, -, hname⟩ := hnames e he
    have hmem : (name.toUTF8, e.2) ∈ entries := hname ▸ he
    have hname : e.1.size = name.utf8ByteSize := congrArg ByteArray.size hname
    have hinside : ∀ names, e.2.HasPath names →
        size + 1 + e.1.size + pathSize names < pathLimit := by
      intro names hpath
      have hlonger := hshort (name :: names) (.inside hmem hpath)
      rw [pathSize] at hlonger
      omega
    exact Prod.ext rfl (ih e he hinside (hinside [] (.here _)))

/-- Where a path leads beyond the limit, something on the way is listed without content. -/
theorem exists_unread_through {size : Nat} (h : tree.HasPath names)
    (hlong : pathLimit ≤ size + pathSize names) :
    ∃ names', (names'.map String.toUTF8, none) ∈ (tree.through size).files ∧
      pathLimit ≤ size + pathSize names' := by
  have hfar : ∀ {tree : FileTree} {size : Nat}, pathLimit ≤ size →
      ∃ names', (names'.map String.toUTF8, none) ∈ (tree.through size).files ∧
        pathLimit ≤ size + pathSize names' := by
    intro tree size hle
    rw [through_of_le hle]
    exact ⟨[], List.mem_singleton_self _, hle⟩
  induction h generalizing size with
  | here tree => exact hfar hlong
  | @inside entries name tree names hmem _ ih =>
    rcases Nat.lt_or_ge size pathLimit with hlt | hge
    · rw [pathSize] at hlong
      obtain ⟨names', hlisted, hlong'⟩ := @ih (size + 1 + name.utf8ByteSize) (by omega)
      refine ⟨name :: names', ?_, by rw [pathSize]; omega⟩
      rw [through, if_pos hlt, files, filesOf_eq_flatMap, entriesThrough_eq_map, List.mem_flatMap]
      exact ⟨_, List.mem_map_of_mem hmem, List.mem_map_of_mem hlisted⟩
    · exact hfar hge

theorem size_le_size_withSlash (path : ByteArray) : path.size ≤ (withSlash path).size := by
  unfold withSlash
  split
  next => exact Nat.le_refl _
  next =>
    rw [ByteArray.size_push]
    exact Nat.le_succ _

theorem size_withSlash_le (path : ByteArray) : (withSlash path).size ≤ path.size + 1 := by
  unfold withSlash
  split
  next => exact Nat.le_succ _
  next => exact Nat.le_of_eq ByteArray.size_push

variable {path : ByteArray}

/-- A directory is seen as it is if all paths in it are short enough. -/
theorem seenFrom_eq_self (h : (directory entries).IsPlain)
    (hshort : ∀ name names, (directory entries).HasPath (name :: names) →
      (withSlash path).size + name.utf8ByteSize + pathSize names < pathLimit) :
    (directory entries).seenFrom path = directory entries := by
  cases h with
  | directory hnames _ hplain =>
    rw [seenFrom, entriesThrough_eq_map]
    refine congrArg directory ((List.map_congr_left fun e he => ?_).trans (List.map_id _))
    obtain ⟨name, -, hname⟩ := hnames e he
    refine Prod.ext rfl (through_eq_self (hplain e he) fun names hpath => ?_)
    have hmem : (name.toUTF8, e.2) ∈ entries := hname ▸ he
    have hsize : e.1.size = name.utf8ByteSize := congrArg ByteArray.size hname
    rw [hsize]
    exact hshort name names (.inside hmem hpath)

/-- Otherwise something in it is listed without content. -/
theorem exists_unread {name : String} (h : (directory entries).HasPath (name :: names))
    (hlong : pathLimit ≤ (withSlash path).size + name.utf8ByteSize + pathSize names) :
    ∃ name' names', (((name' :: names').map String.toUTF8, none) ∈
        filesOf (entriesThrough (withSlash path).size entries)) ∧
      pathLimit ≤ (withSlash path).size + name'.utf8ByteSize + pathSize names' := by
  cases h with
  | @inside _ _ tree _ hmem h =>
    obtain ⟨names', hlisted, hlong'⟩ := exists_unread_through h hlong
    refine ⟨name, names', ?_, hlong'⟩
    rw [filesOf_eq_flatMap, entriesThrough_eq_map, List.mem_flatMap]
    exact ⟨_, List.mem_map_of_mem hmem, List.mem_map_of_mem hlisted⟩

end FileTree

/-- Parts that lead nowhere else stay in a directory. -/
theorem Place.follow_still {here : Place} {entries : List (ByteArray × FileTree)}
    {parts : List ByteArray} (hhere : here.tree = .directory entries)
    (hstill : ∀ part ∈ parts, isStill part = true) : here.follow parts = .ok here := by
  induction parts with
  | nil => rfl
  | cons part parts ih =>
    rw [List.forall_mem_cons] at hstill
    rw [follow, hhere]
    dsimp only
    rw [if_pos hstill.1]
    exact ih hstill.2

/-- A path leads to a directory, with these entries on the disk. -/
structure FileSystem.HasDirectory (fs : FileSystem) (path : ByteArray)
    (entries : List (ByteArray × FileTree)) : Prop where
  sound : pathFault? path = none
  leads : (fs.follow (pathParts path)).map (·.tree) = .ok (.directory entries)

theorem FileSystem.HasDirectory.find_eq {fs : FileSystem} {path : ByteArray}
    {entries : List (ByteArray × FileTree)} (h : fs.HasDirectory path entries) :
    fs.find path = .ok ((FileTree.directory entries).seenFrom path) := by
  have hleads := h.leads
  rw [find, h.sound]
  cases hplace : fs.follow (pathParts path) with
  | error fault =>
    rw [hplace] at hleads
    cases hleads
  | ok place =>
    rw [hplace] at hleads
    exact congrArg (fun tree : FileTree => Except.ok (tree.seenFrom path)) (Except.ok.inj hleads)

end HotReload
