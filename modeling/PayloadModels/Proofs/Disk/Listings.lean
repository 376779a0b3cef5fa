import Mathlib.Data.List.Nodup
import PayloadModels.Proofs.Disk.Trees

/-!
# Listings

The files in a directory are listed by their names, in order (`filesWithExtensions_eq`): on a tree,
each file that lies there and has one of the extensions, once (`mem_namesWithExtensions`,
`nodup_namesWithExtensions`). So the listings of two disks are the same, up to names that are left
out of both, when their files are (`filter_mergeSort_congr`). The path to a file that lies deeper
below another path leads to it as well (`IsTree.locate?_below`).
-/

namespace PayloadModels

open PayloadModels.Path

/-! ## Names in order -/

namespace Path

variable {names others : List String}

/-- A part is equal to itself in the order of parts. -/
theorem compare_part_self (part : Part) : compare part part = .eq := by
  cases part with
  | name text =>
    show (compare text text).then .eq = .eq
    rw [Std.LawfulEqOrd.compare_eq_iff_eq.2 rfl]
    rfl
  | _ => rfl

/-- Names in one directory are compared by themselves. -/
theorem compare_append_name (parts : List Part) (name other : String) :
    compare (parts ++ [.name name]) (parts ++ [.name other]) = compare name other := by
  show List.compareLex compare _ _ = _
  induction parts with
  | nil =>
    rw [List.nil_append, List.nil_append, List.compareLex_cons_cons]
    show ((compare name other).then .eq).then .eq = _
    cases compare name other <;> rfl
  | cons part parts ih =>
    rw [List.cons_append, List.cons_append, List.compareLex_cons_cons, compare_part_self]
    exact ih

/-- Whether a name comes before another or is the same. -/
def nameLe (name other : String) : Bool := (compare name other).isLE

/-- Paths to names in one directory are in order when the names are. -/
theorem sort_map_join (directory : Path) (hnames : ∀ name ∈ names, IsPlainName name) :
    Path.sort (names.map fun name => directory.join ⟨name⟩)
      = (names.mergeSort nameLe).map fun name => directory.join ⟨name⟩ := by
  rw [Path.sort, List.map_mergeSort]
  intro name hname other hother
  rw [Path.le, parts_join directory (hnames name hname), parts_join directory (hnames other hother),
    compare_append_name, nameLe]

/-- Sorting names puts them in order. -/
theorem pairwise_mergeSort_nameLe (names : List String) :
    (names.mergeSort nameLe).Pairwise fun name other => nameLe name other := by
  refine List.pairwise_mergeSort (fun a b c => Std.TransCmp.isLE_trans) (fun a b => ?_) names
  have hswap : compare a b = (compare b a).swap := Std.OrientedCmp.eq_swap
  rw [nameLe, nameLe, hswap]
  cases compare b a <;> rfl

/-- Names are listed alike, up to those that are left out of both lists. -/
theorem filter_mergeSort_congr (hnames : names.Nodup) (hothers : others.Nodup) {p : String → Bool}
    (h : ∀ name, p name → (name ∈ names ↔ name ∈ others)) :
    (names.mergeSort nameLe).filter p = (others.mergeSort nameLe).filter p := by
  have hperm : ((names.mergeSort nameLe).filter p).Perm ((others.mergeSort nameLe).filter p) := by
    rw [List.perm_ext_iff_of_nodup ((List.mergeSort_perm _ _).nodup_iff.2 hnames |>.filter p)
      ((List.mergeSort_perm _ _).nodup_iff.2 hothers |>.filter p)]
    intro name
    rw [List.mem_filter, List.mem_filter, List.mem_mergeSort, List.mem_mergeSort]
    exact and_congr_left (h name)
  refine List.Perm.eq_of_pairwise (fun a b _ _ hab hba => ?_)
    ((pairwise_mergeSort_nameLe names).filter p) ((pairwise_mergeSort_nameLe others).filter p) hperm
  exact Std.LawfulEqOrd.eq_of_compare (Std.OrientedCmp.isLE_antisymm hab hba)

end Path

/-! ## Names of files -/

namespace Disk

variable {disk : Disk} {directory : Path} {extensions : List String} {location : Location}
  {name : String}

/-- The name that leads from a directory to a file, if it leads there at once and has one of some
extensions. -/
def nameWithExtension? (extensions : List String) : List String → Option String
  | [name] => if (extensionOf? name).any (· ∈ extensions) then some name else none
  | _ => none

/-- A name is found where it is the only one on the way and has one of the extensions. -/
theorem nameWithExtension?_eq_some_iff {names : List String} :
    nameWithExtension? extensions names = some name
      ↔ names = [name] ∧ (extensionOf? name).any (· ∈ extensions) := by
  rw [nameWithExtension?.eq_def]
  split
  · next text =>
    rw [Option.ite_none_right_eq_some, Option.some.injEq, List.singleton_inj]
    constructor
    · rintro ⟨hextension, rfl⟩
      exact ⟨rfl, hextension⟩
    · rintro ⟨rfl, hextension⟩
      exact ⟨hextension, rfl⟩
  · next hsingle =>
    refine iff_of_false (by simp) ?_
    rintro ⟨hnames, -⟩
    exact hsingle name hnames

/-- The names of the files in a directory that have one of some extensions. -/
def namesWithExtensions (disk : Disk) (directory : Path) (extensions : List String) :
    List String :=
  (disk.filesBelow directory).filterMap (nameWithExtension? extensions)

/-- The files of a disk are the entries that are files. -/
theorem mem_files {file : Location} (h : file ≠ []) :
    file ∈ disk.files ↔ ∃ entry, disk.entry? file = some entry ∧ entry.isFile := by
  rw [files, List.mem_map]
  constructor
  · rintro ⟨⟨_, entry⟩, hentry, rfl⟩
    obtain ⟨hentry, hfile⟩ := List.mem_filter.1 hentry
    rw [Std.TreeMap.mem_toList_iff_getElem?_eq_some] at hentry
    exact ⟨entry, by rw [entry?_of_ne_nil h, hentry], hfile⟩
  · rintro ⟨entry, hentry, hfile⟩
    rw [entry?_of_ne_nil h] at hentry
    exact ⟨(file, entry), List.mem_filter.2
      ⟨Std.TreeMap.mem_toList_iff_getElem?_eq_some.2 hentry, hfile⟩, rfl⟩

/-- No file is listed twice. -/
theorem nodup_files (disk : Disk) : disk.files.Nodup := by
  rw [files, List.Nodup, List.pairwise_map]
  refine List.Pairwise.filter _ (Std.TreeMap.distinct_keys_toList.imp fun hne heq => ?_)
  exact hne (Std.LawfulEqOrd.compare_eq_iff_eq.2 heq)

/-- A directory has the names of the files that lie in it and have one of the extensions. -/
theorem mem_namesWithExtensions (h : disk.locate? directory = some location) :
    name ∈ disk.namesWithExtensions directory extensions
      ↔ (∃ entry, disk.entry? (location ++ [name]) = some entry ∧ entry.isFile)
        ∧ (extensionOf? name).any (· ∈ extensions) := by
  rw [namesWithExtensions, filesBelow, h, List.mem_filterMap, ← mem_files (by simp)]
  simp only [List.mem_filterMap, nameWithExtension?_eq_some_iff,
    List.isPrefixOf?_eq_some_iff_append_eq]
  constructor
  · rintro ⟨names, ⟨file, hfile, hbelow⟩, rfl, hextension⟩
    exact ⟨hbelow ▸ hfile, hextension⟩
  · rintro ⟨hfile, hextension⟩
    exact ⟨[name], ⟨_, hfile, rfl⟩, rfl, hextension⟩

/-- There are no files in a directory that no path leads to. -/
theorem namesWithExtensions_of_locate?_eq_none (h : disk.locate? directory = none) :
    disk.namesWithExtensions directory extensions = [] := by
  rw [namesWithExtensions, filesBelow, h]
  rfl

/-- A path that is not empty is one of a directory where it leads to one. -/
theorem isDirectory_iff : disk.isDirectory directory
    ↔ directory.text.isEmpty = false ∧ ∃ location, disk.HasDirectoryAt directory location := by
  rw [isDirectory, decide_eq_true_iff, find?, locate?, Option.bind_eq_some_iff]
  by_cases hempty : directory.text.isEmpty
  · simp [hempty]
  · simp only [HasDirectoryAt, named, leadsTo_iff_follow?, hempty, hasDirectory, decide_eq_true_iff]
    simp

/-- A path to a directory leads there. -/
theorem HasDirectoryAt.locate?_eq (h : disk.HasDirectoryAt directory location)
    (hempty : directory.text.isEmpty = false) : disk.locate? directory = some location := by
  rw [locate?, hempty]
  exact (leadsTo_iff_follow?.1 h).1

/-- A path is one of a file where it finds a file. -/
theorem isFile_iff {path : Path} :
    disk.isFile path ↔ ∃ entry, disk.find? path = some entry ∧ entry.isFile := by
  rw [isFile, Option.any_eq_true]

/-- A path reads the text that it finds. -/
theorem read?_eq_some_iff {path : Path} {text : String} :
    disk.read? path = some text ↔ disk.find? path = some (.text text) := by
  rw [read?]
  split
  · next hfind => simp [hfind]
  · next hother => exact iff_of_false (by simp) (hother text)

/-- What is read is a file. -/
theorem isFile_of_read? {path : Path} {text : String} (h : disk.read? path = some text) :
    disk.isFile path :=
  isFile_iff.2 ⟨_, read?_eq_some_iff.1 h, rfl⟩

/-- A path along a name leads to something only through the directory. -/
theorem exists_of_find?_join {entry : Entry} (hname : IsPlainName name)
    (h : disk.find? (directory.join ⟨name⟩) = some entry) :
    ∃ location, disk.HasDirectoryAt directory location ∧
      disk.locate? (directory.join ⟨name⟩) = some (location ++ [name]) ∧
      disk.entry? (location ++ [name]) = some entry := by
  obtain ⟨target, htarget, hentry⟩ := Option.bind_eq_some_iff.1 h
  obtain ⟨front, hjoin, hfront⟩ := exists_pieces_join_eq_append directory hname
  have hstart : disk.start (directory.join ⟨name⟩) = disk.start directory := by
    rw [start, start, isAbsolute_join directory hname.not_mem]
  have hfollow := htarget
  rw [locate?, isEmpty_text_of_pieces hjoin hname, hstart, hjoin, follow?_append] at hfollow
  obtain ⟨location, hlocation, hlast⟩ := Option.bind_eq_some_iff.1 hfollow
  rw [follow?] at hlast
  split at hlast
  · next hdirectory =>
    have hthere : disk.HasDirectoryAt directory location := by
      rw [HasDirectoryAt, ← hfront, leadsTo_iff_follow?]
      exact ⟨hlocation, hdirectory⟩
    rw [hthere.locate?_join hname, Option.ite_none_right_eq_some] at htarget
    obtain ⟨hshort, htarget⟩ := htarget
    cases htarget
    exact ⟨location, hthere, by rw [hthere.locate?_join hname, if_pos hshort], hentry⟩
  · cases hlast

/-- No name of a file is listed twice. -/
theorem nodup_namesWithExtensions (disk : Disk) (directory : Path) (extensions : List String) :
    (disk.namesWithExtensions directory extensions).Nodup := by
  rw [namesWithExtensions, filesBelow]
  cases disk.locate? directory with
  | none => exact .nil
  | some location =>
    refine List.Nodup.filterMap ?_ (List.Nodup.filterMap ?_ disk.nodup_files)
    · intro names others name hnames hothers
      rw [(nameWithExtension?_eq_some_iff.1 hnames).1, (nameWithExtension?_eq_some_iff.1 hothers).1]
    · intro file other names hfile hother
      rw [← List.isPrefixOf?_eq_some_iff_append_eq.1 hfile,
        List.isPrefixOf?_eq_some_iff_append_eq.1 hother]

namespace IsTree

/-- The files that are listed have names that paths can end in. -/
theorem isPlainName_of_mem_namesWithExtensions (h : disk.IsTree)
    (hname : name ∈ disk.namesWithExtensions directory extensions) : IsPlainName name := by
  cases hlocate : disk.locate? directory with
  | none =>
    rw [namesWithExtensions_of_locate?_eq_none hlocate] at hname
    cases hname
  | some location =>
    obtain ⟨⟨entry, hentry, -⟩, -⟩ := (mem_namesWithExtensions hlocate).1 hname
    have hthere : disk.entry? (location ++ [name]) ≠ none := by simp [hentry]
    exact h.isPlainName hthere

/-- A path is that of a directory when something lies in the place that it leads to. -/
theorem hasDirectoryAt_of_locate? (h : disk.IsTree)
    (hlocate : disk.locate? directory = some location)
    (hthere : disk.entry? (location ++ [name]) ≠ none) :
    directory.text.isEmpty = false ∧ disk.HasDirectoryAt directory location := by
  rw [locate?] at hlocate
  split at hlocate
  · cases hlocate
  · next hempty =>
    exact ⟨Bool.eq_false_iff.2 hempty,
      leadsTo_iff_follow?.2 ⟨hlocate, h.hasDirectory hthere⟩⟩

/-- On a tree the files in a directory are listed by their names. -/
theorem filesWithExtensions_eq (h : disk.IsTree) (directory : Path) (extensions : List String) :
    disk.filesWithExtensions directory extensions
      = ((disk.namesWithExtensions directory extensions).mergeSort nameLe).map fun name =>
        directory.join ⟨name⟩ := by
  show Path.sort ((disk.namesWithExtensions directory extensions).map _) = _
  exact sort_map_join directory fun name => h.isPlainName_of_mem_namesWithExtensions

/-- On a tree a name is listed when the path along it leads to a file, unless the path of the
directory is empty. -/
theorem mem_namesWithExtensions_iff (h : disk.IsTree) (hname : IsPlainName name) :
    name ∈ disk.namesWithExtensions directory extensions
      ↔ directory.text.isEmpty = false ∧ disk.isFile (directory.join ⟨name⟩)
        ∧ (extensionOf? name).any (· ∈ extensions) := by
  rw [isFile_iff]
  constructor
  · intro hmem
    obtain ⟨location, hlocate⟩ : ∃ location, disk.locate? directory = some location := by
      cases hlocate : disk.locate? directory with
      | none =>
        rw [namesWithExtensions_of_locate?_eq_none hlocate] at hmem
        cases hmem
      | some location => exact ⟨location, rfl⟩
    obtain ⟨⟨entry, hentry, hfile⟩, hextension⟩ := (mem_namesWithExtensions hlocate).1 hmem
    have hthere : disk.entry? (location ++ [name]) ≠ none := by simp [hentry]
    obtain ⟨hempty, hdirectory⟩ := h.hasDirectoryAt_of_locate? hlocate hthere
    refine ⟨hempty, ⟨entry, ?_, hfile⟩, hextension⟩
    rw [hdirectory.find?_join hname, if_pos (h.isName hthere), hentry]
  · rintro ⟨hempty, ⟨entry, hentry, hfile⟩, hextension⟩
    obtain ⟨location, hdirectory, -, hentry⟩ := exists_of_find?_join hname hentry
    have hlocate := hdirectory.locate?_eq hempty
    exact (mem_namesWithExtensions hlocate).2 ⟨⟨entry, hentry, hfile⟩, hextension⟩

/-! ## Files at any depth -/

/-- On a tree, something lies at every location on the way to something. -/
theorem entry?_ne_none_of_append (h : disk.IsTree) {names : List String}
    (hthere : disk.entry? (location ++ names) ≠ none) : disk.entry? location ≠ none := by
  induction names generalizing location with
  | nil => simpa using hthere
  | cons name names ih =>
    rw [List.append_cons] at hthere
    have hdirectory := h.hasDirectory (ih hthere)
    rw [Disk.hasDirectory, decide_eq_true_iff] at hdirectory
    simp [hdirectory]

/-- On a tree, the path to something below a path that leads somewhere leads there. -/
theorem locate?_below (h : disk.IsTree) {names : List String}
    (hlocate : disk.locate? directory = some location)
    (hthere : disk.entry? (location ++ names) ≠ none) :
    disk.locate? (directory.below names) = some (location ++ names) := by
  induction names generalizing directory location with
  | nil => simpa [below] using hlocate
  | cons name names ih =>
    rw [List.append_cons] at hthere ⊢
    have hname := h.entry?_ne_none_of_append hthere
    obtain ⟨-, hdirectory⟩ := h.hasDirectoryAt_of_locate? hlocate hname
    refine ih ?_ hthere
    rw [hdirectory.locate?_join (h.isPlainName hname), if_pos (h.isName hname)]

end IsTree

/-- A file that is listed is there. -/
theorem entry?_ne_none_of_mem_files {file : Location} (h : file ∈ disk.files) :
    disk.entry? file ≠ none := by
  by_cases hroot : file = []
  · simp [hroot, entry?]
  · obtain ⟨entry, hentry, -⟩ := (mem_files hroot).1 h
    simp [hentry]

/-- On a tree, the path to each file below a path leads somewhere. -/
theorem IsTree.exists_locate?_of_mem_filesBelow (h : disk.IsTree) {names : List String}
    (hnames : names ∈ disk.filesBelow directory) :
    ∃ location, disk.locate? (directory.below names) = some location := by
  rw [filesBelow] at hnames
  cases hlocate : disk.locate? directory with
  | none => simp [hlocate] at hnames
  | some location =>
    simp only [hlocate, List.mem_filterMap, List.isPrefixOf?_eq_some_iff_append_eq] at hnames
    obtain ⟨file, hfile, rfl⟩ := hnames
    exact ⟨_, h.locate?_below hlocate (entry?_ne_none_of_mem_files hfile)⟩

end Disk

end PayloadModels
