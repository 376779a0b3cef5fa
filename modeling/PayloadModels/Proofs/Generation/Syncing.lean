import PayloadModels.Proofs.Generation.Orphans

/-!
# Bringing a directory up to date

What it does to a disk to write the files of a run and to remove its orphans (`Disk.Updated`): each
path of a changed file holds the text of the last such file, the orphans are gone, and everything
else is as before but for directories that were made (`Generator.updated_of_sync`). A run that may
not write leaves the disk alone, and it finds the same orphans unless the directory of the files is
overlooked (`Generator.orphans_sync`).
-/

namespace PayloadModels

variable {disk after : Disk} {generator : Generator} {files : List GeneratedFile} {prune : Bool}
  {synced : Synced}

/-- A disk has been brought up to date: the changed files of a run were written and some files
removed, and that is all but for directories that were made. -/
structure Disk.Updated (disk : Disk) (files : List GeneratedFile) (removed : List Path)
    (after : Disk) : Prop where
  /-- A path holds the text of the last changed file that has it. -/
  read?_last : ∀ front file back, files = front ++ file :: back → file.status.isChanged →
    (∀ later ∈ back, later.status.isChanged → later.path ≠ file.path) →
      after.read? file.path = some file.contents
  find?_removed : ∀ path ∈ removed, after.find? path = none
  entry?_frame : ∀ location,
    (∀ file ∈ files, file.status.isChanged → after.locate? file.path ≠ some location) →
    (∀ path ∈ removed, after.locate? path ≠ some location) →
      after.entry? location = disk.entry? location ∨
        disk.entry? location = none ∧ after.entry? location = some .directory

namespace Disk

/-- The path of a changed file holds the text of a changed file in the end. -/
theorem Updated.exists_read? {removed : List Path} {file : GeneratedFile}
    (h : disk.Updated files removed after) (hfile : file ∈ files)
    (hchanged : file.status.isChanged) :
    ∃ last ∈ files, last.status.isChanged ∧ last.path = file.path ∧
      after.read? file.path = some last.contents := by
  obtain ⟨front, last, back, hsplit, ⟨hlast, hpath⟩, hback⟩ := exists_last_of_exists
    (p := fun later => later.status.isChanged ∧ later.path = file.path)
    ⟨file, hfile, hchanged, rfl⟩
  refine ⟨last, by simp [hsplit], hlast, hpath, ?_⟩
  rw [← hpath]
  refine h.read?_last front last back hsplit hlast fun later hlater hchanged hsame => ?_
  exact hback later hlater ⟨hchanged, hsame.trans hpath⟩

/-- Writing files updates a disk. -/
theorem updated_of_writeChanged {directory : Path} {count : Nat}
    (hfiles : ∀ file ∈ files, file.LiesIn directory)
    (hwritten : disk.writeChanged files = (after, .ok count)) : disk.Updated files [] after := by
  rcases exists_writes_of_writeChanged hfiles hwritten with ⟨hunchanged, rfl⟩ | hwrites
  · refine ⟨fun front file back hsplit hchanged _ => ?_, by simp, fun _ _ _ => .inl rfl⟩
    rw [hunchanged file (by simp [hsplit])] at hchanged
    cases hchanged
  obtain ⟨base, location, hmade, hwrites⟩ := hwrites
  obtain ⟨hbase, hthere⟩ := makeDirectory_spec hmade
  have hafter := hwrites.hasDirectoryAt hthere
  have hlocate : ∀ file ∈ files, ∀ name, file.GoesTo directory name →
      after.locate? file.path = some (location ++ [name]) := by
    intro file hfile name hname
    rw [hname.path_eq, hafter.locate?_join hname.isPlainName, if_pos (hwrites.isName hfile hname)]
  refine ⟨fun front file back hsplit hchanged hlast => ?_, by simp, fun target htarget _ => ?_⟩
  · have hmem : file ∈ files := by simp [hsplit]
    obtain ⟨name, hname⟩ := (hfiles file hmem).exists_goesTo hchanged
    rw [read?, find?, hlocate file hmem name hname, Option.bind_some,
      hwrites.entry?_last hsplit hname hlast]
  · rw [hwrites.entry?_frame]
    · exact hbase.entry?_eq target
    · rintro file hfile name hname rfl
      exact htarget file hfile hname.isChanged (hlocate file hfile name hname)

/-- A path that led to a text leads to it or to the text of a changed file. -/
theorem read?_of_writeChanged {directory : Path} {count : Nat} {file : GeneratedFile}
    {text : String} (hfiles : ∀ file ∈ files, file.LiesIn directory)
    (hwritten : disk.writeChanged files = (after, .ok count)) (hfile : file ∈ files)
    (hread : disk.read? file.path = some text) :
    after.read? file.path = some text ∨
      ∃ last ∈ files, after.read? file.path = some last.contents := by
  by_cases hchanged : ∃ other ∈ files, other.status.isChanged ∧ other.path = file.path
  · obtain ⟨other, hother, hchanged, hpath⟩ := hchanged
    have hupdated := updated_of_writeChanged hfiles hwritten
    obtain ⟨last, hlast, -, -, hlater⟩ := hupdated.exists_read? hother hchanged
    exact .inr ⟨last, hlast, hpath ▸ hlater⟩
  left
  rcases exists_writes_of_writeChanged hfiles hwritten with ⟨-, rfl⟩ | hwrites
  · exact hread
  obtain ⟨base, location, hmade, hwrites⟩ := hwrites
  obtain ⟨name, hname, hpath⟩ := hfiles file hfile
  obtain ⟨entry, hentry⟩ : ∃ entry, disk.find? file.path = some entry := by
    cases hfind : disk.find? file.path with
    | none => simp [read?, hfind] at hread
    | some entry => exact ⟨entry, rfl⟩
  rw [hpath] at hentry hread ⊢
  obtain ⟨there, hthere, -, -⟩ := exists_of_find?_join hname hentry
  rw [makeDirectory_of_hasDirectoryAt hthere] at hmade
  cases hmade
  have hafter := hwrites.hasDirectoryAt hthere
  rw [read?, hthere.find?_join hname] at hread
  rw [read?, hafter.find?_join hname, hwrites.entry?_frame, hread]
  intro other hother text htext heq
  refine hchanged ⟨other, hother, htext.isChanged, ?_⟩
  rw [htext.path_eq, hpath, List.singleton_inj.1 (List.append_inj' heq rfl).2]

/-- Removing other files updates the disk further. -/
theorem Updated.removesFiles {written : Disk} {removed : List Path}
    (h : disk.Updated files [] written) (hremoves : written.RemovesFiles removed after)
    (hother : ∀ path ∈ removed, ∀ file ∈ files, file.status.isChanged → ∀ location,
      written.locate? file.path = some location → written.locate? path ≠ some location) :
    disk.Updated files removed after := by
  refine ⟨fun front file back hsplit hchanged hlast => ?_, fun path hpath => ?_,
    fun location hchanged hremoved => ?_⟩
  · have hread := h.read?_last front file back hsplit hchanged hlast
    rw [read?, find?] at hread ⊢
    rw [hremoves.locate?_eq]
    cases hlocate : written.locate? file.path with
    | none => simp [hlocate] at hread
    | some location =>
      have hframe := hremoves.entry?_frame location fun path hpath =>
        hother path hpath file (by simp [hsplit]) hchanged location hlocate
      rw [hlocate, Option.bind_some] at hread
      rw [Option.bind_some, hframe, hread]
  · rw [find?, hremoves.locate?_eq, Option.bind_eq_none_iff]
    exact hremoves.entry?_gone path hpath
  · simp only [hremoves.locate?_eq] at hchanged hremoved
    rw [hremoves.entry?_frame location hremoved]
    exact h.entry?_frame location hchanged (by simp)

end Disk

namespace Generator

/-- What a run that writes does when nothing goes wrong. -/
theorem sync_eq_ok_iff : generator.sync disk files true prune = (after, .ok synced) ↔
    ∃ written, disk.writeChanged files = (written, .ok synced.written) ∧
      generator.orphans written files = .ok synced.orphans ∧
      if prune then written.removeAll synced.orphans = (after, .ok ()) else written = after := by
  obtain ⟨count, orphans⟩ := synced
  rw [sync, if_pos rfl]
  cases hwrite : disk.writeChanged files with
  | mk written result =>
    cases result with
    | error error => simp
    | ok number =>
      cases hfound : generator.orphans written files with
      | error error =>
        simp only [hfound, Prod.mk.injEq, reduceCtorEq, and_false, false_iff, not_exists]
        rintro other ⟨⟨rfl, -⟩, horphans, -⟩
        rw [hfound] at horphans
        cases horphans
      | ok found =>
        simp only [hfound, Prod.ext_iff, map_eq_ok_iff]
        constructor
        · rintro ⟨hafter, ⟨⟩, hremoved, hsynced⟩
          cases hsynced
          refine ⟨written, ⟨rfl, rfl⟩, hfound, ?_⟩
          cases prune with
          | false => exact hafter
          | true => exact ⟨hafter, hremoved⟩
        · rintro ⟨_, ⟨rfl, hcount⟩, horphans, hremoved⟩
          cases hcount
          cases hfound.symm.trans horphans
          cases prune with
          | false => exact ⟨hremoved, (), rfl, rfl⟩
          | true => exact ⟨hremoved.1, (), hremoved.2, rfl⟩

/-- A run on a tree fails at writing a file, or it has written all files and fails at looking for
orphans: those that are found can be removed. -/
theorem sync_eq_error_iff (hdisk : disk.IsTree) {error : Error} :
    generator.sync disk files true prune = (after, .error error) ↔
      disk.writeChanged files = (after, .error error) ∨
        (∃ count, disk.writeChanged files = (after, .ok count)) ∧
          generator.orphans after files = .error error := by
  rw [sync, if_pos rfl]
  cases hwrite : disk.writeChanged files with
  | mk written result =>
    cases result with
    | error fault => simp
    | ok count =>
      cases horphans : generator.orphans written files with
      | error fault =>
        simp only [horphans, Prod.mk.injEq, reduceCtorEq, and_false, false_or, Except.error.injEq]
        constructor
        · rintro ⟨rfl, rfl⟩
          exact ⟨⟨count, rfl, rfl⟩, horphans⟩
        · rintro ⟨⟨_, rfl, -⟩, hfault⟩
          rw [horphans] at hfault
          cases hfault
          exact ⟨rfl, rfl⟩
      | ok orphans =>
        obtain ⟨real, hreal⟩ :=
          Disk.exists_removeAll_orphans (hdisk.of_writeChanged hwrite) horphans
        refine iff_of_false ?_ ?_
        · cases prune <;> simp [horphans, hreal, Except.map]
        · rintro (hfault | ⟨⟨_, hcount⟩, hfault⟩)
          · cases hfault
          · cases hcount
            rw [horphans] at hfault
            cases hfault

/-- A run that may not write leaves the disk alone. -/
theorem sync_dry : generator.sync disk files false false
    = (disk, (generator.orphans disk files).map fun orphans => ⟨0, orphans⟩) := by
  cases horphans : generator.orphans disk files <;> simp [sync, horphans, Except.map]

/-- A run updates the disk. -/
theorem updated_of_sync (hdisk : disk.IsTree)
    (hfiles : ∀ file ∈ files, file.LiesIn generator.directory)
    (h : generator.sync disk files true prune = (after, .ok synced)) :
    disk.Updated files (if prune then synced.orphans else []) after := by
  obtain ⟨written, hwritten, horphans, hremoved⟩ := sync_eq_ok_iff.1 h
  have hupdated := Disk.updated_of_writeChanged hfiles hwritten
  have htree := hdisk.of_writeChanged hwritten
  cases prune with
  | false =>
    rw [if_neg (by simp)] at hremoved ⊢
    exact hremoved ▸ hupdated
  | true =>
    rw [if_pos rfl] at hremoved ⊢
    refine hupdated.removesFiles (Disk.removesFiles_of_removeAll hremoved) ?_
    -- An orphan has another name than the files of the run.
    intro path hpath file hfile hchanged location hlocate hsame
    obtain ⟨spare, rfl, hspare, hisSpare, hisFile⟩ := exists_of_mem_orphans htree horphans hpath
    obtain ⟨entry, hentry, -⟩ := Disk.isFile_iff.1 hisFile
    exact locate?_ne_of_isSpare hisSpare hspare hfile (hfiles file hfile) hentry
      (hlocate.trans hsame.symm)

/-- A run that may not write finds the orphans that a run finds, unless the directory of the files
is overlooked; then it finds none. -/
theorem orphans_sync {dry real : Disk} {found : Synced} (hdisk : disk.IsTree)
    (hfiles : ∀ file ∈ files, file.LiesIn generator.directory)
    (hdry : generator.sync disk files false false = (dry, .ok found))
    (hreal : generator.sync disk files true prune = (real, .ok synced)) :
    found.orphans = if disk.overlooks generator.directory then [] else synced.orphans := by
  rw [sync_dry, Prod.mk.injEq, map_eq_ok_iff] at hdry
  obtain ⟨-, orphans, hfound, rfl⟩ := hdry
  obtain ⟨written, hwritten, horphans, -⟩ := sync_eq_ok_iff.1 hreal
  split
  · next hlooks =>
    rw [orphans_of_overlooks hdisk hlooks] at hfound
    exact (Except.ok.inj hfound).symm
  · next hlooks =>
    rw [orphans_writeChanged hdisk hfiles hwritten (Bool.eq_false_iff.2 hlooks), hfound] at horphans
    exact Except.ok.inj horphans

/-- Bringing a directory up to date leaves a tree, also when it fails. -/
theorem isTree_sync (hdisk : disk.IsTree) {write : Bool} :
    (generator.sync disk files write prune).1.IsTree := by
  have hwritten : (if write then disk.writeChanged files else (disk, .ok 0)).1.IsTree := by
    split
    · exact hdisk.writeChanged
    · exact hdisk
  rw [sync]
  cases hwrite : (if write then disk.writeChanged files else (disk, .ok 0)) with
  | mk written result =>
    rw [hwrite] at hwritten
    cases result with
    | error error => exact hwritten
    | ok count =>
      cases horphans : generator.orphans written files with
      | error error =>
        simp only [horphans]
        exact hwritten
      | ok orphans =>
        cases prune with
        | false =>
          simp only [horphans, Bool.false_eq_true, if_false]
          exact hwritten
        | true =>
          simp only [horphans, if_true]
          exact hwritten.removeAll

end Generator

end PayloadModels
