import HotReload.Archive.Directory
import HotReload.Proofs.Archive.Coverage
import HotReload.Proofs.FileTree
import HotReload.Proofs.Sorting
import Mathlib.Data.Set.List

/-!
# The files of a directory

An archive that is read from a directory holds the files that are seen in it and nothing else
(`Archive.mirrors_of_isPlain`). Names between slashes are legal parts of an entry's name, and two files
do not come together under one name, so an entry can only be refused for a backslash. The entries are
added in the order of their names: in which order directories list what stands in them is not seen.
-/

namespace HotReload

section Paths

variable {names names' : List String}

/-- The names on the way to a file with slashes between them. -/
def pathText (names : List String) : String :=
  "/".intercalate names

theorem splitOn_pathText (hne : names ≠ []) (hlegal : ∀ name ∈ names, IsFileName name) :
    (pathText names).toList.splitOn '/' = names.map String.toList := by
  rw [pathText, String.toList_intercalate]
  refine List.splitOn_intercalate '/' ?_ (List.map_eq_nil_iff.not.mpr hne)
  intro word hword
  obtain ⟨name, hname, rfl⟩ := List.mem_map.mp hword
  exact (hlegal name hname).noSlash

theorem pathText_inj (hne : names ≠ []) (hlegal : ∀ name ∈ names, IsFileName name)
    (hne' : names' ≠ []) (hlegal' : ∀ name ∈ names', IsFileName name)
    (h : pathText names = pathText names') : names = names' := by
  have hsplit := splitOn_pathText hne hlegal
  rw [h, splitOn_pathText hne' hlegal'] at hsplit
  exact (List.map_injective_iff.mpr (fun _ _ => String.toList_inj.mp) hsplit).symm

/-- What stands between slashes is legal, so only a backslash is refused. -/
theorem fault_pathText (hne : names ≠ []) (hlegal : ∀ name ∈ names, IsFileName name) :
    EntryFault.of? (pathText names) =
      if '\\' ∈ (pathText names).toList then some .notRelative else none := by
  have hsegments : ∀ segment ∈ (pathText names).toList.splitOn '/',
      EntryFault.isBadSegment segment = false := by
    intro segment hsegment
    rw [splitOn_pathText hne hlegal] at hsegment
    obtain ⟨name, hname, rfl⟩ := List.mem_map.mp hsegment
    obtain ⟨hempty, hstay, hstepUp, -⟩ := hlegal name hname
    have hchars : ∀ text : String, name ≠ text → (name.toList == text.toList) = false :=
      fun text hne => beq_eq_false_iff_ne.mpr fun heq => hne (String.toList_inj.mp heq)
    simp only [EntryFault.isBadSegment, Bool.or_eq_false_iff]
    exact ⟨⟨hchars "" hempty, hchars "." hstay⟩, hchars ".." hstepUp⟩
  unfold EntryFault.of?
  generalize (pathText names).toList = cs at hsegments
  cases cs with
  | nil => exact absurd (hsegments [] List.mem_cons_self) (by decide)
  | cons c cs =>
    have hslash : c ≠ '/' := by
      rintro rfl
      rw [List.splitOn_cons_eq_if_modifyHead, if_pos (beq_self_eq_true _)] at hsegments
      exact absurd (hsegments [] List.mem_cons_self) (by decide)
    have hany : ((c :: cs).splitOn '/').any EntryFault.isBadSegment = false :=
      List.any_eq_false.mpr fun segment hsegment => Bool.eq_false_iff.mp (hsegments segment hsegment)
    simp only [hany, List.isEmpty_cons, List.head?_cons, Bool.false_eq_true, if_false,
      Bool.or_eq_true, beq_iff_eq, Option.some.injEq, hslash, false_or, List.contains_iff_mem]

end Paths

namespace Archive

theorem fromUTF8?_toUTF8 (s : String) : String.fromUTF8? s.toUTF8 = some s := by
  rw [String.fromUTF8?, String.toUTF8_eq_toByteArray, dif_pos s.isValidUTF8]
  rfl

theorem entryName?_map_toUTF8 (names : List String) :
    entryName? (names.map String.toUTF8) = some (pathText names) := by
  have hnames : (names.map String.toUTF8).mapM (fun part => String.fromUTF8? part) = some names := by
    induction names with
    | nil => rfl
    | cons name names ih =>
      rw [List.map_cons, List.mapM_cons, fromUTF8?_toUTF8, ih]
      rfl
  rw [entryName?, hnames]
  rfl

variable {path : ByteArray} {entries : List (ByteArray × FileTree)} {spec : ModuleSpec}
  {tree : FileTree} {listing before after : List (String × ByteArray)} {name : String}
  {content : ByteArray}

/-- What a directory declares: what the file for it says, or, where there is no such file, nothing but the
name of the directory. -/
inductive Declares (path : ByteArray) (tree : FileTree) : ModuleSpec → Prop where
  | written {text : String} {spec : ModuleSpec}
      (hfile : tree.HasFile [specFileName] text.toUTF8)
      (hparse : ModuleSpec.parse text = .ok spec) : Declares path tree spec
  | named {name : String} {id : ModuleId}
      (hmissing : ∀ content, ¬tree.HasFile [specFileName] content)
      (hname : pathName? path = some name.toUTF8)
      (hid : ModuleId.ofName name = .ok id) : Declares path tree (.empty id)

theorem Declares.specOfDirectory_eq (h : Declares path (.directory entries) spec)
    (hplain : (FileTree.directory entries).IsPlain) : specOfDirectory path entries = .ok spec := by
  have hchild : ∀ content, FileTree.child? specFileName.toUTF8 entries = some (.file content) ↔
      (FileTree.directory entries).HasFile [specFileName] content := by
    intro content
    cases hplain with
    | directory _ hnodup _ =>
      rw [FileTree.child?_eq_some_iff hnodup, FileTree.hasFile_singleton_iff]
  unfold specOfDirectory
  cases h with
  | written hfile hparse =>
    rw [(hchild _).mpr hfile]
    dsimp only
    rw [fromUTF8?_toUTF8]
    dsimp only
    rw [hparse]
    rfl
  | named hmissing hname hid =>
    split
    next content hfound => exact absurd ((hchild content).mp hfound) (hmissing content)
    next =>
      rw [hname, Option.bind_some, fromUTF8?_toUTF8]
      dsimp only
      rw [hid]
      rfl

/-- The files of a directory in the order of their names, without the one for the specification. -/
structure IsListing (tree : FileTree) (listing : List (String × ByteArray)) : Prop where
  ascending : listing.Pairwise fun a b => compare a.1 b.1 = .lt
  mem_iff : ∀ name content, (name, content) ∈ listing ↔ ∃ names, tree.HasFile names content ∧
    names ≠ [specFileName] ∧ name = pathText names

theorem foldlM_addFound (a : Archive) (added : List (String × ByteArray)) :
    (added.map fun e => (e.1, some e.2)).foldlM addFound a =
      (added.foldlM (fun (a : Archive) e => a.add e.1 e.2) a).mapError .entry := by
  induction added generalizing a with
  | nil => rfl
  | cons e added ih =>
    rw [List.map_cons, List.foldlM_cons, List.foldlM_cons]
    refine Eq.trans ?_ (except_mapError_bind _ _ _).symm
    exact congrArg _ (funext ih)

/-- Two files of a directory do not have the same name. -/
theorem pathText_inj_of_hasFile {names names' : List String} {content content' : ByteArray}
    (hplain : (FileTree.directory entries).IsPlain)
    (hfile : (FileTree.directory entries).HasFile names content)
    (hfile' : (FileTree.directory entries).HasFile names' content')
    (h : pathText names = pathText names') : names = names' :=
  pathText_inj hfile.ne_nil (hfile.isFileName hplain) hfile'.ne_nil (hfile'.isFileName hplain) h

/-- Only the file for the specification has its name. -/
theorem pathText_eq_specFileName_iff {names : List String} (hplain : (FileTree.directory entries).IsPlain)
    (hfile : (FileTree.directory entries).HasFile names content) :
    pathText names = specFileName ↔ names = [specFileName] := by
  have hlegal : IsFileName specFileName := ⟨by decide, by decide, by decide, by decide⟩
  constructor
  · intro h
    exact pathText_inj hfile.ne_nil (hfile.isFileName hplain) (List.cons_ne_nil specFileName [])
      (List.forall_mem_singleton.mpr hlegal) h
  · rintro rfl
    rfl

theorem Declares.congr {tree' : FileTree} (h : Declares path tree spec)
    (hfiles : ∀ names content, tree'.HasFile names content ↔ tree.HasFile names content) :
    Declares path tree' spec := by
  cases h with
  | written hfile hparse => exact .written ((hfiles _ _).mpr hfile) hparse
  | named hmissing hname hid =>
    exact .named (fun content => (hfiles _ _).not.mpr (hmissing content)) hname hid

/-- All files of a directory are found, each under a name of its own. -/
theorem exists_found (path : ByteArray) (hplain : (FileTree.directory entries).IsPlain) :
    ∃ found, (FileTree.filesOf entries).mapM (entryOfFile path) = .ok found ∧
      (found.map Prod.fst).Nodup ∧ ∀ e, e ∈ found ↔ ∃ names content,
        (FileTree.directory entries).HasFile names content ∧ e = (pathText names, some content) := by
  have hfile : ∀ {file}, file ∈ FileTree.filesOf entries ↔ ∃ names content,
      (FileTree.directory entries).HasFile names content ∧
        file.1 = names.map String.toUTF8 ∧ file.2 = some content :=
    FileTree.mem_files_iff hplain
  -- Every file has a name, so the traversal is a map.
  let nameOf : List ByteArray → String := fun path => (entryName? path).getD ""
  have hname : ∀ names : List String, nameOf (names.map String.toUTF8) = pathText names := by
    intro names
    simp only [nameOf, entryName?_map_toUTF8, Option.getD_some]
  refine ⟨(FileTree.filesOf entries).map fun file => (nameOf file.1, file.2), ?_, ?_, ?_⟩
  · rw [mapM_eq_ok_iff, List.forall₂_map_right_iff, List.forall₂_same]
    intro file hmem
    obtain ⟨names, content, -, hpath, -⟩ := hfile.mp hmem
    rw [entryOfFile, hpath, hname, entryName?_map_toUTF8]
  · have hnames : ((FileTree.filesOf entries).map fun file => (nameOf file.1, file.2)).map Prod.fst =
        ((FileTree.filesOf entries).map Prod.fst).map nameOf := by
      rw [List.map_map, List.map_map]
      rfl
    rw [hnames]
    refine List.Nodup.map_on ?_ (FileTree.nodup_paths hplain)
    intro path hlisted path' hlisted' heq
    obtain ⟨file, hmem, rfl⟩ := List.mem_map.mp hlisted
    obtain ⟨file', hmem', rfl⟩ := List.mem_map.mp hlisted'
    obtain ⟨names, content, hnames, hpath, -⟩ := hfile.mp hmem
    obtain ⟨names', content', hnames', hpath', -⟩ := hfile.mp hmem'
    rw [hpath, hpath', hname, hname] at heq
    rw [hpath, hpath', pathText_inj_of_hasFile hplain hnames hnames' heq]
  · intro e
    rw [List.mem_map]
    constructor
    · rintro ⟨⟨path, found⟩, hmem, rfl⟩
      obtain ⟨names, content, hnames, rfl, rfl⟩ := hfile.mp hmem
      exact ⟨names, content, hnames, Prod.ext (hname names) rfl⟩
    · rintro ⟨names, content, hnames, rfl⟩
      exact ⟨(names.map String.toUTF8, some content), hfile.mpr ⟨names, content, hnames, rfl, rfl⟩,
        Prod.ext (hname names) rfl⟩

/-- The files of a directory are added in the order of their names. -/
theorem exists_isListing (hplain : (FileTree.directory entries).IsPlain)
    (hdeclares : Declares path (.directory entries) spec) :
    ∃ listing, IsListing (.directory entries) listing ∧
      ofDirectory path (.ok (.directory entries)) = (ofEntries spec listing).mapError .entry := by
  obtain ⟨found, hfound, hnodup, hmem⟩ := exists_found path hplain
  have hspec := hdeclares.specOfDirectory_eq hplain
  let sorted := found.mergeSort fun a b => (compare a.1 b.1).isLE
  let kept := sorted.filter fun e => e.1 != specFileName
  have hperm : sorted.Perm found := List.mergeSort_perm found _
  have hkept : ∀ e, e ∈ kept ↔ e ∈ found ∧ e.1 ≠ specFileName := by
    intro e
    rw [List.mem_filter, hperm.mem_iff, bne_iff_ne]
  have hascending : kept.Pairwise fun a b => compare a.1 b.1 = .lt := by
    apply List.Pairwise.filter
    exact ascending_of_pairwise_isLE Prod.fst (pairwise_mergeSort_isLE Prod.fst found)
      ((hperm.map Prod.fst).nodup_iff.mpr hnodup)
  -- Nothing is out of reach.
  obtain ⟨listing, hlisting⟩ : kept ∈ Set.range (List.map fun e : String × ByteArray =>
      (e.1, some e.2)) := by
    rw [Set.range_list_map]
    intro e he
    obtain ⟨names, content, -, rfl⟩ := (hmem e).mp ((hkept e).mp he).1
    exact ⟨(pathText names, content), rfl⟩
  refine ⟨listing, ⟨?_, ?_⟩, ?_⟩
  · rw [← hlisting] at hascending
    exact List.pairwise_map.mp hascending
  · intro name content
    have hmap : (name, content) ∈ listing ↔ (name, some content) ∈ kept := by
      rw [← hlisting, List.mem_map]
      constructor
      · exact fun h => ⟨_, h, rfl⟩
      · rintro ⟨⟨name', content'⟩, h, heq⟩
        cases heq
        exact h
    rw [hmap, hkept, hmem]
    constructor
    · rintro ⟨⟨names, content', hfile, heq⟩, hne⟩
      cases heq
      exact ⟨names, hfile, (pathText_eq_specFileName_iff hplain hfile).not.mp hne, rfl⟩
    · rintro ⟨names, hfile, hne, rfl⟩
      exact ⟨⟨names, content, hfile, rfl⟩, (pathText_eq_specFileName_iff hplain hfile).not.mpr hne⟩
  · have hadded : ofDirectory path (.ok (.directory entries)) = kept.foldlM addFound (ofSpec spec) := by
      simp only [ofDirectory, ofEntriesOfDirectory, bind]
      rw [hspec]
      simp only [Except.bind]
      rw [hfound]
    rw [hadded, ← hlisting, foldlM_addFound]
    rfl

/-! ## Adding the files -/

theorem add_eq_badName {a : Archive} {fault : EntryFault} (h : EntryFault.of? name = some fault) :
    a.add name content = .error (.badName name fault) := by
  unfold add
  split
  next hfault =>
    rw [h] at hfault
    cases hfault
    rfl
  next hfault =>
    rw [h] at hfault
    cases hfault

/-- The first illegal name is the one that is refused. -/
theorem ofEntries_eq_badName {fault : EntryFault} (hlegal : ∀ e ∈ before, IsEntryName e.1)
    (hnodup : (before.map Prod.fst).Nodup) (hfault : EntryFault.of? name = some fault) :
    ofEntries spec (before ++ (name, content) :: after) = .error (.badName name fault) := by
  obtain ⟨b, hb⟩ := exists_foldlM_eq_ok (a := ofSpec spec) hlegal hnodup fun _ _ => rfl
  rw [ofEntries, List.foldlM_append, hb]
  simp only [bind, Except.bind, List.foldlM_cons, add_eq_badName hfault]

/-- The first name of a file, in the order of texts, that holds a backslash. -/
structure IsFirstBackslash (tree : FileTree) (name : String) : Prop where
  isFile : ∃ names content, tree.HasFile names content ∧ name = pathText names
  mem : '\\' ∈ name.toList
  least : ∀ names content, tree.HasFile names content → '\\' ∈ (pathText names).toList →
    (compare name (pathText names)).isLE = true

namespace IsListing

theorem nodup_names (h : IsListing tree listing) : (listing.map Prod.fst).Nodup := by
  refine List.pairwise_map.mpr (h.ascending.imp fun {a b} hlt heq => ?_)
  have hsame : compare b.1 b.1 = .eq := Std.ReflCmp.compare_self
  rw [heq, hsame] at hlt
  cases hlt

/-- The files determine their listing. -/
theorem eq_of_hasFile_iff {tree' : FileTree} {listing' : List (String × ByteArray)}
    (h : IsListing tree listing) (h' : IsListing tree' listing')
    (hfiles : ∀ names content, tree'.HasFile names content ↔ tree.HasFile names content) :
    listing' = listing := by
  refine eq_of_ascending Prod.fst h'.ascending h.ascending fun e => ?_
  rw [h'.mem_iff, h.mem_iff]
  simp only [hfiles]

/-- A name is refused if and only if it holds a backslash. -/
theorem fault_eq (h : IsListing (.directory entries) listing)
    (hplain : (FileTree.directory entries).IsPlain) {e : String × ByteArray} (he : e ∈ listing) :
    EntryFault.of? e.1 = if '\\' ∈ e.1.toList then some .notRelative else none := by
  obtain ⟨names, hfile, -, hname⟩ := (h.mem_iff e.1 e.2).mp he
  rw [hname]
  exact fault_pathText hfile.ne_nil (hfile.isFileName hplain)

theorem mem_of_backslash (h : IsListing tree listing) {names : List String}
    (hfile : tree.HasFile names content) (hback : '\\' ∈ (pathText names).toList) :
    (pathText names, content) ∈ listing := by
  refine (h.mem_iff _ _).mpr ⟨names, hfile, ?_, rfl⟩
  rintro rfl
  exact absurd hback (by decide)

theorem ofEntries_eq_error (h : IsListing (.directory entries) listing) (spec : ModuleSpec)
    (hplain : (FileTree.directory entries).IsPlain) {names : List String}
    (hfile : (FileTree.directory entries).HasFile names content)
    (hback : '\\' ∈ (pathText names).toList) :
    ∃ name, IsFirstBackslash (.directory entries) name ∧
      ofEntries spec listing = .error (.badName name .notRelative) := by
  have hsome : (listing.find? fun e => decide ('\\' ∈ e.1.toList)).isSome = true :=
    List.find?_isSome.mpr ⟨_, h.mem_of_backslash hfile hback, decide_eq_true hback⟩
  obtain ⟨⟨name, content⟩, hfind⟩ := Option.isSome_iff_exists.mp hsome
  obtain ⟨hname, before, after, rfl, hbefore⟩ := List.find?_eq_some_iff_append.mp hfind
  have hname := of_decide_eq_true hname
  have hmem : (name, content) ∈ before ++ (name, content) :: after := by simp
  have hlegal : ∀ e ∈ before, '\\' ∉ e.1.toList := by
    intro e he
    simpa using hbefore e he
  refine ⟨name, ⟨?_, hname, ?_⟩, ofEntries_eq_badName (fun e he => ?_) ?_ ?_⟩
  · obtain ⟨names, hfile, -, heq⟩ := (h.mem_iff name content).mp hmem
    exact ⟨names, content, hfile, heq⟩
  · intro names content' hfile hback
    rcases List.mem_append.mp (h.mem_of_backslash hfile hback) with hother | hother
    · exact absurd hback (hlegal _ hother)
    · rcases List.mem_cons.mp hother with heq | hother
      · rw [(Prod.mk.inj heq).1]
        exact Std.ReflCmp.isLE_rfl
      · have hascending := (List.pairwise_append.mp h.ascending).2.1
        exact Ordering.isLE_of_eq_lt ((List.pairwise_cons.mp hascending).1 _ hother)
  · rw [IsEntryName, h.fault_eq hplain (List.mem_append_left _ he), if_neg (hlegal e he)]
  · have hnodup := h.nodup_names
    rw [List.map_append] at hnodup
    exact hnodup.of_append_left
  · rw [h.fault_eq hplain hmem, if_pos hname]

theorem exists_ofEntries_eq_ok (h : IsListing (.directory entries) listing) (spec : ModuleSpec)
    (hplain : (FileTree.directory entries).IsPlain)
    (hnone : ∀ names content, (FileTree.directory entries).HasFile names content →
      '\\' ∉ (pathText names).toList) :
    ∃ a, ofEntries spec listing = .ok a := by
  refine exists_foldlM_eq_ok (fun e he => ?_) h.nodup_names fun _ _ => rfl
  obtain ⟨names, hfile, -, hname⟩ := (h.mem_iff e.1 e.2).mp he
  rw [IsEntryName, h.fault_eq hplain he, if_neg (hname ▸ hnone names e.2 hfile)]

theorem find?_iff {a : Archive} (h : IsListing tree listing) (ha : ofEntries spec listing = .ok a) :
    a.spec = spec ∧ ∀ name content, a.find? name = some content ↔ ∃ names,
      tree.HasFile names content ∧ names ≠ [specFileName] ∧ name = pathText names := by
  obtain ⟨hspec, hperm⟩ := ofEntries_eq_ok_iff.mp ha
  refine ⟨hspec, fun name content => ?_⟩
  rw [find?, ← SortedMap.mem_entries_iff, ← hperm.mem_iff, h.mem_iff]

end IsListing

/-! ## Directories -/

/-- What a directory is read as: its files, each under its path, or, if a path holds a backslash, the
refusal of the first such path. -/
structure Mirrors (tree : FileTree) (spec : ModuleSpec) (result : Except ArchiveError Archive) :
    Prop where
  fails_iff : (∃ error, result = .error error) ↔
    ∃ names content, tree.HasFile names content ∧ '\\' ∈ (pathText names).toList
  error_eq : ∀ error, result = .error error →
    ∃ name, IsFirstBackslash tree name ∧ error = .entry (.badName name .notRelative)
  spec_eq : ∀ a, result = .ok a → a.spec = spec
  find?_iff : ∀ a, result = .ok a → ∀ name content, a.find? name = some content ↔
    ∃ names, tree.HasFile names content ∧ names ≠ [specFileName] ∧ name = pathText names
  pathText_inj : ∀ names names' content content', tree.HasFile names content →
    tree.HasFile names' content' → pathText names = pathText names' → names = names'

/-- A directory that is seen as files and directories is read as what is seen, and directories with the
same files are read alike. -/
theorem mirrors_of_isPlain (hplain : (FileTree.directory entries).IsPlain)
    (hdeclares : Declares path (.directory entries) spec) :
    Mirrors (.directory entries) spec (ofDirectory path (.ok (.directory entries))) ∧
      ∀ entries', (FileTree.directory entries').IsPlain →
        (∀ names content, (FileTree.directory entries').HasFile names content ↔
          (FileTree.directory entries).HasFile names content) →
        ofDirectory path (.ok (.directory entries')) = ofDirectory path (.ok (.directory entries)) := by
  obtain ⟨listing, hlisting, hread⟩ := exists_isListing hplain hdeclares
  have hfails : ∀ error, ofDirectory path (.ok (.directory entries)) = .error error →
      ∃ names content, (FileTree.directory entries).HasFile names content ∧
        '\\' ∈ (pathText names).toList := by
    intro error herror
    by_contra hnone
    push Not at hnone
    obtain ⟨a, ha⟩ := hlisting.exists_ofEntries_eq_ok spec hplain hnone
    rw [hread, ha] at herror
    cases herror
  have hrefused : ∀ names content, (FileTree.directory entries).HasFile names content →
      '\\' ∈ (pathText names).toList → ∃ name, IsFirstBackslash (.directory entries) name ∧
        ofDirectory path (.ok (.directory entries)) = .error (.entry (.badName name .notRelative)) := by
    intro names content hfile hback
    obtain ⟨name, hfirst, herror⟩ := hlisting.ofEntries_eq_error spec hplain hfile hback
    exact ⟨name, hfirst, by rw [hread, herror]; rfl⟩
  refine ⟨⟨⟨?_, ?_⟩, ?_, ?_, ?_, fun _ _ _ _ => pathText_inj_of_hasFile hplain⟩, ?_⟩
  · rintro ⟨error, herror⟩
    exact hfails error herror
  · rintro ⟨names, content, hfile, hback⟩
    obtain ⟨name, -, herror⟩ := hrefused names content hfile hback
    exact ⟨_, herror⟩
  · intro error herror
    obtain ⟨names, content, hfile, hback⟩ := hfails error herror
    obtain ⟨name, hfirst, herror'⟩ := hrefused names content hfile hback
    rw [herror] at herror'
    exact ⟨name, hfirst, Except.error.inj herror'⟩
  · intro a ha
    rw [hread] at ha
    exact (hlisting.find?_iff (except_mapError_eq_ok ha)).1
  · intro a ha
    rw [hread] at ha
    exact (hlisting.find?_iff (except_mapError_eq_ok ha)).2
  · intro entries' hplain' hfiles
    obtain ⟨listing', hlisting', hread'⟩ := exists_isListing hplain' (hdeclares.congr hfiles)
    rw [hread, hread', hlisting.eq_of_hasFile_iff hlisting' hfiles]

end Archive

end HotReload
