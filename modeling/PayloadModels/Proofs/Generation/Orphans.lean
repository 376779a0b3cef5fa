import PayloadModels.Proofs.Disk.Listings
import PayloadModels.Proofs.Generation.Rewriting

/-!
# Orphans

On a tree the orphans of a run are told by the files that the names in its directory lead to
(`Generator.orphans_congr`). Writing the files of the run changes no others, so it does not matter
whether orphans are looked for before or after it (`Generator.orphans_writeChanged`). But writing
makes directories too: a path may lead nowhere before that and then to a directory that has been
there all the time, say into a missing directory and up again (`Disk.overlooks`). Before, no orphan
is found at such a path (`Generator.orphans_of_overlooks`).

Removing orphans takes away their files and nothing else (`Disk.removesFiles_of_removeAll`).
-/

namespace PayloadModels

variable {disk other after : Disk} {generator : Generator} {files : List GeneratedFile}
  {paths orphans : List Path} {path : Path} {name : String} {target : Location} {count : Nat}

/-- Whether a path leads to no directory yet, but would, once missing directories on its way are
made, lead to one that is there already. -/
def Disk.overlooks (disk : Disk) (path : Path) : Bool :=
  !path.text.isEmpty && !disk.isDirectory path
    && (disk.makeDirectory path).2.any disk.hasDirectory

/-- A path that overlooks nothing leads to the directory that it would lead to, if that is there. -/
theorem Disk.hasDirectoryAt_of_not_overlooks (hempty : path.text.isEmpty = false)
    (h : disk.overlooks path = false) (hmade : disk.makeDirectory path = (after, some target))
    (hdirectory : disk.hasDirectory target) : disk.HasDirectoryAt path target := by
  have hthere : disk.isDirectory path := by
    simpa [overlooks, hempty, hmade, hdirectory] using h
  obtain ⟨-, location, hlocation⟩ := isDirectory_iff.1 hthere
  rw [makeDirectory_of_hasDirectoryAt hlocation] at hmade
  cases hmade
  exact hlocation

namespace Generator

/-! ## Looking for orphans -/

/-- Which files are generated is told by what their paths read. -/
theorem generatedAmong_congr (h : ∀ path ∈ paths, disk.read? path = other.read? path) :
    generatedAmong disk paths = generatedAmong other paths := by
  induction paths with
  | nil => rfl
  | cons path paths ih =>
    obtain ⟨hpath, hpaths⟩ := List.forall_mem_cons.1 h
    rw [generatedAmong, generatedAmong, hpath, ih hpaths]

/-- The generated files are some of those that were looked at, in order. -/
theorem sublist_of_generatedAmong (h : generatedAmong disk paths = .ok orphans) :
    orphans.Sublist paths := by
  induction paths generalizing orphans with
  | nil =>
    cases h
    exact .slnil
  | cons path paths ih =>
    rw [generatedAmong] at h
    split at h
    · cases h
    · next text _ =>
      obtain ⟨rest, hrest, h⟩ := Json.exists_of_bind_eq_ok h
      cases h
      by_cases hmark : isGenerated text
      · rw [if_pos hmark]
        exact (ih hrest).cons_cons path
      · rw [if_neg hmark]
        exact (ih hrest).cons path

/-- Whether a name in the directory is that of none of the files. -/
def isSpare (generator : Generator) (files : List GeneratedFile) (name : String) : Bool :=
  !files.any (·.path.same (generator.directory.join ⟨name⟩))

/-- A name is spare when no file of the run has its path. -/
theorem isSpare_iff : generator.isSpare files name
    ↔ ∀ file ∈ files, ¬ file.path.same (generator.directory.join ⟨name⟩) := by
  simp [isSpare]

/-- A spare name is none that a file of the run goes to. -/
theorem append_ne_of_isSpare {file : GeneratedFile} {spare : String}
    (hspare : generator.isSpare files spare) (hfile : file ∈ files)
    (hname : file.GoesTo generator.directory name) (location : Location) :
    location ++ [spare] ≠ location ++ [name] := by
  intro heq
  obtain ⟨-, heq⟩ := List.append_inj' heq rfl
  obtain rfl := List.singleton_inj.1 heq
  exact isSpare_iff.1 hspare file hfile ((hname.same_iff hname.isPlainName).2 rfl)

/-- A spare name does not lead to where a file of the run goes. -/
theorem locate?_ne_of_isSpare {file : GeneratedFile} {spare : String} {entry : Disk.Entry}
    (hspare : generator.isSpare files spare) (hplain : Path.IsPlainName spare)
    (hfile : file ∈ files) (hlies : file.LiesIn generator.directory)
    (hfound : disk.find? (generator.directory.join ⟨spare⟩) = some entry) :
    disk.locate? file.path ≠ disk.locate? (generator.directory.join ⟨spare⟩) := by
  obtain ⟨directory, hdirectory, hlocation, -⟩ := Disk.exists_of_find?_join hplain hfound
  obtain ⟨name, hname, hpath⟩ := hlies
  rw [hpath, hdirectory.locate?_join hname, hlocation]
  intro hsame
  obtain ⟨-, hsame⟩ := Option.ite_none_right_eq_some.1 hsame
  obtain rfl := List.singleton_inj.1 (List.append_inj' (Option.some.inj hsame) rfl).2
  refine isSpare_iff.1 hspare file hfile ?_
  rw [hpath]
  exact decide_eq_true rfl

/-- On a tree orphans are looked for among the spare names, in order. -/
theorem orphans_eq (h : disk.IsTree) (files : List GeneratedFile) :
    generator.orphans disk files = generatedAmong disk
      ((((disk.namesWithExtensions generator.directory generator.language.extensions).mergeSort
        Path.nameLe).filter (generator.isSpare files)).map fun name =>
          generator.directory.join ⟨name⟩) := by
  rw [orphans, h.filesWithExtensions_eq, List.filter_map]
  rfl

/-- Orphans are the same on two trees when spare names lead to the same files. -/
theorem orphans_congr (hdisk : disk.IsTree) (hother : other.IsTree)
    (h : ∀ name, Path.IsPlainName name → generator.isSpare files name → ∀ entry, entry.isFile →
      (disk.find? (generator.directory.join ⟨name⟩) = some entry
        ↔ other.find? (generator.directory.join ⟨name⟩) = some entry)) :
    generator.orphans disk files = generator.orphans other files := by
  have hfile : ∀ name, Path.IsPlainName name → generator.isSpare files name →
      (disk.isFile (generator.directory.join ⟨name⟩)
        ↔ other.isFile (generator.directory.join ⟨name⟩)) := by
    intro name hname hspare
    rw [Disk.isFile_iff, Disk.isFile_iff]
    exact exists_congr fun entry => and_congr_left fun hentry => h name hname hspare entry hentry
  have hlists := Path.filter_mergeSort_congr (p := generator.isSpare files)
    (disk.nodup_namesWithExtensions generator.directory generator.language.extensions)
    (other.nodup_namesWithExtensions generator.directory generator.language.extensions)
    fun name hspare => by
      constructor
      · intro hmem
        have hname := hdisk.isPlainName_of_mem_namesWithExtensions hmem
        rw [hdisk.mem_namesWithExtensions_iff hname, hfile name hname hspare] at hmem
        exact (hother.mem_namesWithExtensions_iff hname).2 hmem
      · intro hmem
        have hname := hother.isPlainName_of_mem_namesWithExtensions hmem
        rw [hother.mem_namesWithExtensions_iff hname, ← hfile name hname hspare] at hmem
        exact (hdisk.mem_namesWithExtensions_iff hname).2 hmem
  rw [orphans_eq hdisk, orphans_eq hother, ← hlists]
  refine generatedAmong_congr fun path hpath => ?_
  obtain ⟨name, hname, rfl⟩ := List.mem_map.1 hpath
  obtain ⟨hmem, hspare⟩ := List.mem_filter.1 hname
  have hmem := List.mem_mergeSort.1 hmem
  have hname := hdisk.isPlainName_of_mem_namesWithExtensions hmem
  obtain ⟨-, hthere, -⟩ := (hdisk.mem_namesWithExtensions_iff hname).1 hmem
  obtain ⟨entry, hentry, hisFile⟩ := Disk.isFile_iff.1 hthere
  rw [Disk.read?, Disk.read?, hentry, (h name hname hspare entry hisFile).1 hentry]

/-- An orphan is a file under a spare name in the directory. -/
theorem exists_of_mem_orphans (h : disk.IsTree)
    (horphans : generator.orphans disk files = .ok orphans) (hpath : path ∈ orphans) :
    ∃ name, path = generator.directory.join ⟨name⟩ ∧ Path.IsPlainName name ∧
      generator.isSpare files name ∧ disk.isFile path := by
  rw [orphans_eq h] at horphans
  obtain ⟨name, hname, rfl⟩ := List.mem_map.1 ((sublist_of_generatedAmong horphans).mem hpath)
  obtain ⟨hmem, hspare⟩ := List.mem_filter.1 hname
  have hmem := List.mem_mergeSort.1 hmem
  have hname := h.isPlainName_of_mem_namesWithExtensions hmem
  obtain ⟨-, hfile, -⟩ := (h.mem_namesWithExtensions_iff hname).1 hmem
  exact ⟨name, rfl, hname, hspare, hfile⟩

/-- No orphan is listed twice. -/
theorem nodup_orphans (h : disk.IsTree) (horphans : generator.orphans disk files = .ok orphans) :
    orphans.Nodup := by
  rw [orphans_eq h] at horphans
  refine (sublist_of_generatedAmong horphans).nodup (List.Nodup.map_on ?_ ?_)
  · have hplain : ∀ name ∈ ((disk.namesWithExtensions generator.directory
        generator.language.extensions).mergeSort Path.nameLe).filter (generator.isSpare files),
        Path.IsPlainName name := by
      intro name hname
      have hmem := List.mem_mergeSort.1 (List.mem_filter.1 hname).1
      exact h.isPlainName_of_mem_namesWithExtensions hmem
    intro name hname other hother heq
    rw [← Path.same_join_iff generator.directory (hplain name hname) (hplain other hother), heq]
    exact decide_eq_true rfl
  · exact ((List.mergeSort_perm _ _).nodup_iff.2 (disk.nodup_namesWithExtensions _ _)).filter _

/-- A path that leads to no directory has no orphans. -/
theorem orphans_of_not_isDirectory (h : disk.IsTree)
    (hdirectory : disk.isDirectory generator.directory = false) :
    generator.orphans disk files = .ok [] := by
  have hnone : disk.namesWithExtensions generator.directory generator.language.extensions = [] := by
    rw [List.eq_nil_iff_forall_not_mem]
    intro name hmem
    have hname := h.isPlainName_of_mem_namesWithExtensions hmem
    obtain ⟨hempty, hfile, -⟩ := (h.mem_namesWithExtensions_iff hname).1 hmem
    obtain ⟨entry, hentry, -⟩ := Disk.isFile_iff.1 hfile
    obtain ⟨location, hlocation, -⟩ := Disk.exists_of_find?_join hname hentry
    rw [Disk.isDirectory_iff.2 ⟨hempty, location, hlocation⟩] at hdirectory
    cases hdirectory
  rw [orphans_eq h, hnone, List.mergeSort_nil]
  rfl

/-- Where a run's directory is overlooked, no orphans are found before it. -/
theorem orphans_of_overlooks (h : disk.IsTree) (hlooks : disk.overlooks generator.directory) :
    generator.orphans disk files = .ok [] := by
  refine orphans_of_not_isDirectory h ?_
  simp only [Disk.overlooks, Bool.and_eq_true, Bool.not_eq_true'] at hlooks
  exact hlooks.1.2

/-- Otherwise the run finds the orphans that are found before it. -/
theorem orphans_writeChanged (h : disk.IsTree)
    (hfiles : ∀ file ∈ files, file.LiesIn generator.directory)
    (hwritten : disk.writeChanged files = (after, .ok count))
    (hlooks : disk.overlooks generator.directory = false) :
    generator.orphans after files = generator.orphans disk files := by
  have hafter := h.of_writeChanged hwritten
  rcases Disk.exists_writes_of_writeChanged hfiles hwritten with ⟨-, rfl⟩ | hwrites
  · rfl
  obtain ⟨base, location, hmade, hwrites⟩ := hwrites
  obtain ⟨hbase, hthere⟩ := Disk.makeDirectory_spec hmade
  have hwritten := hwrites.hasDirectoryAt hthere
  cases hempty : generator.directory.text.isEmpty with
  | true =>
    have hnone : ∀ disk : Disk, disk.isDirectory generator.directory = false := by
      intro disk
      rw [Bool.eq_false_iff]
      intro hdirectory
      rw [(Disk.isDirectory_iff.1 hdirectory).1] at hempty
      cases hempty
    rw [orphans_of_not_isDirectory h (hnone disk), orphans_of_not_isDirectory hafter (hnone after)]
  | false =>
    refine orphans_congr hafter h fun name hname hspare entry hentry => ?_
    have hentries : after.entry? (location ++ [name]) = some entry
        ↔ disk.entry? (location ++ [name]) = some entry := by
      rw [hwrites.entry?_frame, hbase.entry?_eq_some_iff hentry]
      exact fun file hfile other hother => append_ne_of_isSpare hspare hfile hother location
    rw [hwritten.find?_join hname]
    by_cases hdirectory : disk.hasDirectory location
    · have hold := Disk.hasDirectoryAt_of_not_overlooks hempty hlooks hmade hdirectory
      rw [hold.find?_join hname]
      split
      · exact hentries
      · rfl
    · refine iff_of_false (fun hfound => ?_) fun hfound => ?_
      · obtain ⟨-, hfound⟩ := Option.ite_none_right_eq_some.1 hfound
        have hthere : disk.entry? (location ++ [name]) ≠ none := by simp [hentries.1 hfound]
        exact hdirectory (h.hasDirectory hthere)
      · obtain ⟨old, hold, -⟩ := Disk.exists_of_find?_join hname hfound
        rw [Disk.makeDirectory_of_hasDirectoryAt hold] at hmade
        cases hmade
        exact hdirectory hold.hasDirectory_target

end Generator

/-! ## Removing orphans -/

namespace Disk

/-- The files that some paths lead to were removed, and nothing else. -/
structure RemovesFiles (disk : Disk) (paths : List Path) (after : Disk) : Prop where
  locate?_eq : ∀ path, after.locate? path = disk.locate? path
  entry?_none : ∀ location, disk.entry? location = none → after.entry? location = none
  entry?_gone : ∀ path ∈ paths, ∀ location, disk.locate? path = some location →
    after.entry? location = none
  entry?_frame : ∀ location, (∀ path ∈ paths, disk.locate? path ≠ some location) →
    after.entry? location = disk.entry? location

/-- Files are removed one after another until one is not there. -/
theorem removeAll_cons (disk : Disk) (path : Path) (paths : List Path) :
    disk.removeAll (path :: paths) = match disk.remove? path with
      | none => (disk, .error (.fileUnwritable path.text "there is no file"))
      | some disk => disk.removeAll paths :=
  rfl

/-- When all files are removed, each was there when its turn came. -/
theorem removesFiles_of_removeAll (h : disk.removeAll paths = (after, .ok ())) :
    disk.RemovesFiles paths after := by
  induction paths generalizing disk with
  | nil =>
    cases h
    exact ⟨fun _ => rfl, fun _ => id, by simp, fun _ _ => rfl⟩
  | cons path paths ih =>
    rw [removeAll_cons] at h
    cases hremoved : disk.remove? path with
    | none => simp [hremoved] at h
    | some next =>
      rw [hremoved] at h
      obtain ⟨hlocates, hnone, hgone, hframe⟩ := ih h
      obtain ⟨location, entry, hlocate, hentry, hfile, rfl⟩ := remove?_eq_some_iff.1 hremoved
      have hno := not_hasDirectory_of_isFile hentry hfile
      have herase : ∀ target, Disk.entry? (disk.erase location) target
          = if target = location then none else disk.entry? target :=
        fun target => entry?_erase (ne_nil_of_not_hasDirectory hno)
      simp only [locate?_erase hno] at hlocates hgone hframe
      refine ⟨hlocates, fun target htarget => hnone target ?_, ?_, fun target htarget => ?_⟩
      · rw [herase, htarget, ite_self]
      · rw [List.forall_mem_cons]
        refine ⟨fun target htarget => hnone target ?_, hgone⟩
        rw [hlocate] at htarget
        cases htarget
        rw [herase, if_pos rfl]
      · obtain ⟨hhead, htarget⟩ := List.forall_mem_cons.1 htarget
        rw [hframe target htarget, herase, if_neg]
        rintro rfl
        exact hhead hlocate

/-- Files at different locations can be removed. -/
theorem exists_removeAll (hfiles : ∀ path ∈ paths, disk.isFile path)
    (hdistinct : paths.Pairwise fun a b => disk.locate? a ≠ disk.locate? b) :
    ∃ after, disk.removeAll paths = (after, .ok ()) := by
  induction paths generalizing disk with
  | nil => exact ⟨disk, rfl⟩
  | cons path paths ih =>
    obtain ⟨hfile, hfiles⟩ := List.forall_mem_cons.1 hfiles
    obtain ⟨hothers, hdistinct⟩ := List.pairwise_cons.1 hdistinct
    obtain ⟨entry, hfound, hentry⟩ := isFile_iff.1 hfile
    obtain ⟨location, hlocate, hthere⟩ := Option.bind_eq_some_iff.1 hfound
    have hno := not_hasDirectory_of_isFile hthere hentry
    have hremoved : disk.remove? path = some (disk.erase location) :=
      remove?_eq_some_iff.2 ⟨location, entry, hlocate, hthere, hentry, rfl⟩
    rw [removeAll_cons, hremoved]
    refine ih (fun other hother => ?_) (hdistinct.imp fun hne => ?_)
    · obtain ⟨old, hold, hisFile⟩ := isFile_iff.1 (hfiles other hother)
      obtain ⟨target, htarget, hentry⟩ := Option.bind_eq_some_iff.1 hold
      refine isFile_iff.2 ⟨old, ?_, hisFile⟩
      rw [find?, locate?_erase hno, htarget, Option.bind_some,
        entry?_erase (ne_nil_of_not_hasDirectory hno), if_neg, hentry]
      rintro rfl
      exact hothers other hother (hlocate.trans htarget.symm)
    · rwa [locate?_erase hno, locate?_erase hno]

/-- Orphans that were found can be removed. -/
theorem exists_removeAll_orphans (h : disk.IsTree)
    (horphans : generator.orphans disk files = .ok orphans) :
    ∃ after, disk.removeAll orphans = (after, .ok ()) := by
  refine exists_removeAll (fun path hpath => ?_) ?_
  · obtain ⟨name, -, -, -, hfile⟩ := Generator.exists_of_mem_orphans h horphans hpath
    exact hfile
  · refine (Generator.nodup_orphans h horphans).imp_of_mem fun {a b} ha hb hne hsame => hne ?_
    obtain ⟨name, rfl, hname, -, hfile⟩ := Generator.exists_of_mem_orphans h horphans ha
    obtain ⟨other, rfl, hother, -, hfile'⟩ := Generator.exists_of_mem_orphans h horphans hb
    obtain ⟨_, hentry, -⟩ := isFile_iff.1 hfile
    obtain ⟨_, hentry', -⟩ := isFile_iff.1 hfile'
    obtain ⟨location, -, hlocate, -⟩ := exists_of_find?_join hname hentry
    obtain ⟨location', -, hlocate', -⟩ := exists_of_find?_join hother hentry'
    rw [hlocate, hlocate', Option.some.injEq] at hsame
    rw [List.singleton_inj.1 (List.append_inj' hsame rfl).2]

/-- Removing files leaves a tree, also when it fails. -/
theorem IsTree.removeAll (h : disk.IsTree) : (disk.removeAll paths).1.IsTree := by
  induction paths generalizing disk with
  | nil => exact h
  | cons path paths ih =>
    rw [removeAll_cons]
    cases hremoved : disk.remove? path with
    | none => exact h
    | some next =>
      obtain ⟨location, entry, -, hentry, hfile, rfl⟩ := remove?_eq_some_iff.1 hremoved
      exact ih (h.erase (not_hasDirectory_of_isFile hentry hfile))

end Disk

end PayloadModels
