import HotReload.Proofs.Archive.Directory

/-!
# Directories on a disk

A path that is too long leads nowhere, so how much of a directory is seen depends on the path to it.
If all paths in a directory are shorter than the limit, it is read as what it holds; otherwise it is not
read (`Archive.mirrors_ofDirectory`). That a directory of one file with a harmless name may be too far
away is seen from a path that goes on and on without leading anywhere else
(`Archive.exists_error_windingPath`).
-/

namespace HotReload

namespace Archive

variable {path : ByteArray} {entries : List (ByteArray × FileTree)} {spec : ModuleSpec}

/-- All paths that lead through a directory to something below it are shorter than the limit. -/
def IsWithinReach (path : ByteArray) (tree : FileTree) : Prop :=
  ∀ names, tree.HasPath names → names ≠ [] →
    (withSlash path).size + (pathText names).utf8ByteSize < pathLimit

theorem utf8ByteSize_pathText (name : String) (names : List String) :
    (pathText (name :: names)).utf8ByteSize = name.utf8ByteSize + FileTree.pathSize names := by
  induction names generalizing name with
  | nil => rw [pathText, String.intercalate_singleton, FileTree.pathSize, Nat.add_zero]
  | cons next names ih =>
    rw [pathText, String.intercalate_cons_cons, String.utf8ByteSize_append,
      String.utf8ByteSize_append, FileTree.pathSize, Nat.add_assoc name.utf8ByteSize,
      Nat.add_assoc 1, ← ih]
    rfl

theorem IsWithinReach.seenFrom_eq (h : IsWithinReach path (.directory entries))
    (hplain : (FileTree.directory entries).IsPlain) :
    (FileTree.directory entries).seenFrom path = .directory entries := by
  refine FileTree.seenFrom_eq_self hplain fun name names hpath => ?_
  have hshort := h (name :: names) hpath (List.cons_ne_nil _ _)
  rwa [utf8ByteSize_pathText, ← Nat.add_assoc] at hshort

/-- Something that is listed without its content is not passed over, unless it has the place of the
specification. -/
theorem ofDirectory_ne_ok {names : List String} {a : Archive}
    (hlisted : (names.map String.toUTF8, none) ∈ FileTree.filesOf entries)
    (hother : pathText names ≠ specFileName) : ofDirectory path (.ok (.directory entries)) ≠ .ok a := by
  intro h
  obtain ⟨spec, -, h⟩ := except_bind_eq_ok h
  obtain ⟨found, hfound, h⟩ := except_bind_eq_ok h
  obtain ⟨e, he, hentry⟩ := exists_of_forall₂ (mapM_eq_ok_iff.mp hfound).flip hlisted
  rw [entryOfFile, entryName?_map_toUTF8] at hentry
  cases hentry
  have hkept : (pathText names, none) ∈
      (found.mergeSort fun a b => (compare a.1 b.1).isLE).filter fun e => e.1 != specFileName := by
    rw [List.mem_filter, (List.mergeSort_perm found _).mem_iff, bne_iff_ne]
    exact ⟨he, hother⟩
  obtain ⟨before, after, hsplit⟩ := List.append_of_mem hkept
  dsimp only at h
  rw [hsplit, List.foldlM_append] at h
  obtain ⟨b, -, h⟩ := except_bind_eq_ok h
  cases h

/-- Where a path is too long there is no archive, if only that to the specification is not. -/
theorem exists_error_of_not_isWithinReach
    (hspec : (withSlash path).size + specFileName.utf8ByteSize < pathLimit)
    (h : ¬IsWithinReach path (.directory entries)) :
    ∃ error, ofDirectory path (.ok ((FileTree.directory entries).seenFrom path)) = .error error := by
  simp only [IsWithinReach, not_forall, Nat.not_lt] at h
  obtain ⟨names, hpath, hne, hlong⟩ := h
  cases names with
  | nil => exact absurd rfl hne
  | cons name names =>
    rw [utf8ByteSize_pathText, ← Nat.add_assoc] at hlong
    obtain ⟨name', names', hlisted, hlong'⟩ := FileTree.exists_unread hpath hlong
    have hother : pathText (name' :: names') ≠ specFileName := by
      intro heq
      have hsize := utf8ByteSize_pathText name' names'
      rw [heq] at hsize
      omega
    rw [FileTree.seenFrom]
    cases hread : ofDirectory path (.ok (.directory _)) with
    | error error => exact ⟨error, rfl⟩
    | ok a => exact absurd hread (ofDirectory_ne_ok hlisted hother)

/-- A directory of files and directories on a disk is read as what it holds, if all paths in it are
shorter than the limit; otherwise it is not read. The order in which it and those below it list what
stands in them makes no difference: directories with the same files are read alike. -/
theorem mirrors_ofDirectory {fs : FileSystem} (hfound : fs.HasDirectory path entries)
    (hplain : (FileTree.directory entries).IsPlain) (hdeclares : Declares path (.directory entries) spec)
    (hspec : (withSlash path).size + specFileName.utf8ByteSize < pathLimit) :
    (IsWithinReach path (.directory entries) →
      Mirrors (.directory entries) spec (ofDirectory path (fs.find path)) ∧
        ∀ fs' entries', FileSystem.HasDirectory fs' path entries' →
          (FileTree.directory entries').IsPlain → IsWithinReach path (.directory entries') →
          (∀ names content, (FileTree.directory entries').HasFile names content ↔
            (FileTree.directory entries).HasFile names content) →
          ofDirectory path (fs'.find path) = ofDirectory path (fs.find path)) ∧
      (¬IsWithinReach path (.directory entries) →
        ∃ error, ofDirectory path (fs.find path) = .error error) := by
  rw [hfound.find_eq]
  refine ⟨fun hreach => ?_, exists_error_of_not_isWithinReach hspec⟩
  rw [hreach.seenFrom_eq hplain]
  obtain ⟨hmirrors, halike⟩ := mirrors_of_isPlain hplain hdeclares
  refine ⟨hmirrors, fun fs' entries' hfound' hplain' hreach' hfiles => ?_⟩
  rw [hfound'.find_eq, hreach'.seenFrom_eq hplain']
  exact halike entries' hplain' hfiles

/-- A directory with a source and two directories: one holds a file that is named like the file for the
specification, the other is named like it itself. -/
def sampleEntries : List (String × FileTree) :=
  [("res", .named [("module.toml", .file "x".toUTF8)]), ("main.rls", .file "let x=1".toUTF8),
    ("module.toml", .named [("m.rls", .file .empty)])]

/-- A disk with this directory. -/
def sampleDisk : FileSystem where
  root := .named [("srv", .named [("anonymous", .named sampleEntries)])]
  home := []

theorem isPlain_sampleEntries : (FileTree.named sampleEntries).IsPlain := by
  have hsingle : ∀ (name : String) (content : ByteArray), IsFileName name →
      (FileTree.named [(name, .file content)]).IsPlain := fun _ _ hname =>
    FileTree.isPlain_named (List.forall_mem_singleton.mpr hname) (List.nodup_singleton _)
      (List.forall_mem_singleton.mpr (.file _))
  exact FileTree.isPlain_named (by decide) (by decide) (List.forall_mem_cons.mpr
    ⟨hsingle _ _ (by decide), List.forall_mem_cons.mpr
      ⟨.file _, List.forall_mem_singleton.mpr (hsingle _ _ (by decide))⟩⟩)

/-- A path without a zero byte that is neither empty nor too long is sound. -/
theorem pathFault?_eq_none (hzero : 0 ∉ path.data.toList) (hpositive : 0 < path.size)
    (hshort : path.size < pathLimit) : pathFault? path = none := by
  have hcontains : ¬path.data.contains 0 = true := by
    rwa [Array.contains_iff_mem, Array.mem_def]
  have hempty : ¬path.isEmpty = true := by
    rw [ByteArray.isEmpty, beq_iff_eq]
    exact hpositive.ne'
  rw [pathFault?, if_neg hcontains, if_neg hempty, if_neg (Nat.not_le.mpr hshort)]

theorem hasDirectory_sampleDisk :
    sampleDisk.HasDirectory "/srv/anonymous".toUTF8 (sampleEntries.map fun e => (e.1.toUTF8, e.2)) := by
  have hparts : pathParts "/srv/anonymous".toUTF8 =
      [.empty, "srv".toUTF8, "anonymous".toUTF8] := by decide
  constructor
  case sound => exact pathFault?_eq_none (by decide) (by decide) (by decide)
  case leads =>
    rw [hparts]
    rfl

/-- The paths in a directory with nothing but one file. -/
theorem hasPath_single {name : String} {content : ByteArray} {names : List String}
    (h : (FileTree.named [(name, .file content)]).HasPath names) : names = [] ∨ names = [name] := by
  cases names with
  | nil => exact .inl rfl
  | cons next names =>
    obtain ⟨tree, hmem, hpath⟩ := FileTree.hasPath_named_cons_iff.mp h
    cases List.mem_singleton.mp hmem
    exact .inr (congrArg _ (FileTree.hasPath_file_iff.mp hpath))

theorem isWithinReach_sampleEntries :
    IsWithinReach "/srv/anonymous".toUTF8 (.named sampleEntries) := by
  have hshort : ∀ names ∈ [["res"], ["res", "module.toml"], ["main.rls"], ["module.toml"],
      ["module.toml", "m.rls"]],
      (withSlash "/srv/anonymous".toUTF8).size + (pathText names).utf8ByteSize < pathLimit := by
    decide
  intro names hpath hne
  apply hshort
  cases names with
  | nil => exact absurd rfl hne
  | cons name names =>
    obtain ⟨tree, hmem, hpath⟩ := FileTree.hasPath_named_cons_iff.mp hpath
    simp only [sampleEntries, List.mem_cons, Prod.mk.injEq, List.not_mem_nil, or_false] at hmem
    rcases hmem with ⟨rfl, rfl⟩ | ⟨rfl, rfl⟩ | ⟨rfl, rfl⟩
    · rcases hasPath_single hpath with rfl | rfl
      · simp
      · simp
    · obtain rfl := FileTree.hasPath_file_iff.mp hpath
      simp
    · rcases hasPath_single hpath with rfl | rfl
      · simp
      · simp

/-- The directory of the sample is read as it is. -/
theorem mirrors_sample :
    sampleDisk.HasDirectory "/srv/anonymous".toUTF8 (sampleEntries.map fun e => (e.1.toUTF8, e.2)) ∧
      (FileTree.named sampleEntries).IsPlain ∧
      Declares "/srv/anonymous".toUTF8 (.named sampleEntries) (.empty .anonymous) ∧
      (withSlash "/srv/anonymous".toUTF8).size + specFileName.utf8ByteSize < pathLimit ∧
      IsWithinReach "/srv/anonymous".toUTF8 (.named sampleEntries) ∧
      Mirrors (.named sampleEntries) (.empty .anonymous)
        (ofDirectory "/srv/anonymous".toUTF8 (sampleDisk.find "/srv/anonymous".toUTF8)) := by
  have hdeclares : Declares "/srv/anonymous".toUTF8 (.named sampleEntries) (.empty .anonymous) := by
    have hname : pathName? "/srv/anonymous".toUTF8 = some "anonymous".toUTF8 := by decide
    refine .named (fun content hfile => ?_) hname rfl
    have hmem := FileTree.hasFile_singleton_iff.mp hfile
    simp only [sampleEntries, List.map_cons, List.map_nil, List.mem_cons, Prod.mk.injEq, FileTree.named,
      reduceCtorEq, and_false, false_or, or_false, List.not_mem_nil] at hmem
    exact absurd hmem.1 (by decide)
  have hspec : (withSlash "/srv/anonymous".toUTF8).size + specFileName.utf8ByteSize < pathLimit := by
    decide
  have hmirrors := (mirrors_ofDirectory hasDirectory_sampleDisk isPlain_sampleEntries hdeclares hspec).1
    isWithinReach_sampleEntries
  exact ⟨hasDirectory_sampleDisk, isPlain_sampleEntries, hdeclares, hspec, isWithinReach_sampleEntries,
    hmirrors.1⟩

/-! ## A path that is too long -/

/-- What stands between the slashes of a path that goes on for two thousand steps in one directory. -/
def windingParts : List (List UInt8) :=
  [] :: ['w'.toUInt8] :: List.replicate 2000 ['.'.toUInt8]

/-- The path with these parts. -/
def windingPath : ByteArray :=
  ⟨(List.intercalate ['/'.toUInt8] windingParts).toArray⟩

/-- A disk on which the path leads to a directory. -/
def windingDisk (entries : List (ByteArray × FileTree)) : FileSystem where
  root := .named [("w", .directory entries)]
  home := []

theorem intercalate_replicate (separator first part : List UInt8) (n : Nat) :
    List.intercalate separator (first :: List.replicate n part) =
      first ++ (List.replicate n (separator ++ part)).flatten := by
  induction n generalizing first with
  | zero => simp
  | succ n ih =>
    rw [List.replicate_succ, List.intercalate_cons_cons, ih, List.replicate_succ, List.flatten_cons,
      List.append_assoc, List.append_assoc]

theorem intercalate_windingParts :
    List.intercalate ['/'.toUInt8] windingParts =
      '/'.toUInt8 :: 'w'.toUInt8 :: (List.replicate 2000 ['/'.toUInt8, '.'.toUInt8]).flatten := by
  rw [windingParts, List.intercalate_cons_cons, intercalate_replicate]
  rfl

theorem pathParts_windingPath :
    pathParts windingPath = .empty :: "w".toUTF8 :: List.replicate 2000 stay := by
  have hslash : ∀ part ∈ windingParts, '/'.toUInt8 ∉ part := by
    simp only [windingParts, List.forall_mem_cons, List.mem_replicate]
    refine ⟨by decide, by decide, ?_⟩
    rintro part ⟨-, rfl⟩
    decide
  have hsplit : (List.intercalate ['/'.toUInt8] windingParts).splitOn '/'.toUInt8 = windingParts :=
    List.splitOn_intercalate _ hslash (List.cons_ne_nil _ _)
  rw [pathParts, windingPath, hsplit, windingParts]
  simp only [List.map_cons, List.map_replicate]
  rfl

theorem size_windingPath : windingPath.size = 4002 := by
  change (List.intercalate ['/'.toUInt8] windingParts).length = 4002
  rw [intercalate_windingParts, List.length_cons, List.length_cons, List.length_flatten,
    List.map_replicate, List.sum_replicate_nat]
  rfl

theorem pathFault?_windingPath : pathFault? windingPath = none := by
  have hzero : 0 ∉ List.intercalate ['/'.toUInt8] windingParts := by
    rw [intercalate_windingParts]
    simp only [List.mem_cons, List.mem_flatten, List.mem_replicate]
    rintro (hslash | hw | ⟨part, ⟨-, rfl⟩, hstep⟩)
    · exact absurd hslash (by decide)
    · exact absurd hw (by decide)
    · exact absurd hstep (by decide)
  refine pathFault?_eq_none hzero ?_ ?_
  · rw [size_windingPath]
    decide
  · rw [size_windingPath]
    decide

theorem follow_windingDisk {entries : List (ByteArray × FileTree)} {steps : List ByteArray}
    (hstill : ∀ part ∈ steps, isStill part = true) :
    ((windingDisk entries).follow (.empty :: "w".toUTF8 :: steps)).map (·.tree) =
      .ok (.directory entries) := by
  change ((Place.mk (.directory entries) _).follow steps).map (·.tree) = _
  rw [Place.follow_still rfl hstill]
  rfl

theorem hasDirectory_windingDisk (entries : List (ByteArray × FileTree)) :
    (windingDisk entries).HasDirectory windingPath entries := by
  constructor
  case sound => exact pathFault?_windingPath
  case leads =>
    rw [pathParts_windingPath]
    apply follow_windingDisk
    intro part hpart
    rw [List.eq_of_mem_replicate hpart]
    decide

theorem pathName?_windingPath : pathName? windingPath = some "w".toUTF8 := by
  have hparts : (pathParts windingPath).filter (fun part => part != .empty && part != ".".toUTF8) =
      ["w".toUTF8] := by
    rw [pathParts_windingPath]
    exact congrArg _ (List.filter_replicate_of_neg (by decide))
  rw [pathName?, hparts]
  rfl

/-- A directory with one file, whose name has one hundred letters. -/
def windingEntries : List (String × FileTree) :=
  [(.ofList (List.replicate 100 'a'), .file "x".toUTF8)]

theorem not_isWithinReach_windingEntries : ¬IsWithinReach windingPath (.named windingEntries) := by
  intro h
  have hpath : (FileTree.named windingEntries).HasPath [.ofList (List.replicate 100 'a')] :=
    FileTree.hasPath_named_cons_iff.mpr ⟨_, List.mem_singleton_self _, .here _⟩
  have hshort := h _ hpath (List.cons_ne_nil _ _)
  have hname : (pathText [.ofList (List.replicate 100 'a')]).utf8ByteSize = 100 := by decide
  have hway := FileTree.size_le_size_withSlash windingPath
  rw [hname, pathLimit] at hshort
  rw [size_windingPath] at hway
  omega

/-- No name in the directory holds a backslash, but the way to its file is too long: it is not read. -/
theorem exists_error_windingPath :
    (windingDisk (windingEntries.map fun e => (e.1.toUTF8, e.2))).HasDirectory windingPath
        (windingEntries.map fun e => (e.1.toUTF8, e.2)) ∧
      (FileTree.named windingEntries).IsPlain ∧
      Declares windingPath (.named windingEntries) (.empty ⟨"w", none, by decide⟩) ∧
      (∀ names content, (FileTree.named windingEntries).HasFile names content →
        '\\' ∉ (pathText names).toList) ∧
      ∃ error, ofDirectory windingPath
        ((windingDisk (windingEntries.map fun e => (e.1.toUTF8, e.2))).find windingPath) =
          .error error := by
  have hfound := hasDirectory_windingDisk (windingEntries.map fun e => (e.1.toUTF8, e.2))
  have hfile : ∀ names content, (FileTree.named windingEntries).HasFile names content →
      names = [.ofList (List.replicate 100 'a')] := by
    intro names content h
    rcases hasPath_single h.hasPath with rfl | rfl
    · exact absurd rfl h.ne_nil
    · rfl
  refine ⟨hfound, ?_, ?_, ?_, ?_⟩
  · exact FileTree.isPlain_named (by decide) (List.nodup_singleton _)
      (List.forall_mem_singleton.mpr (.file _))
  · refine .named (fun content h => ?_) pathName?_windingPath rfl
    exact absurd (hfile _ content h) (by decide)
  · intro names content h
    rw [hfile names content h]
    decide
  · rw [hfound.find_eq]
    refine exists_error_of_not_isWithinReach ?_ not_isWithinReach_windingEntries
    have hway := FileTree.size_withSlash_le windingPath
    have hspec : specFileName.utf8ByteSize = 11 := by decide
    rw [size_windingPath] at hway
    rw [hspec, pathLimit]
    omega

end Archive

end HotReload
