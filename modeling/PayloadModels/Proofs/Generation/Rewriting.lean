import PayloadModels.Proofs.Disk.Trees
import PayloadModels.Proofs.Generation.Files

/-!
# Writing the files that changed

Writing the files of a run goes from file to file (`Disk.Writes`): an unchanged one is passed over,
and a changed one is put under its name in the directory, over what an earlier one may have put
there. So each name holds the text of the last changed file that has it (`Writes.entry?_last`), and
nothing else is touched (`Writes.entry?_frame`). The directory is made when the first changed file
is written (`exists_writes_of_writeChanged`).
-/

namespace PayloadModels

/-- What some elements of a list have, one has last. -/
theorem exists_last_of_exists {α : Type} {p : α → Prop} {xs : List α} (h : ∃ x ∈ xs, p x) :
    ∃ front x back, xs = front ++ x :: back ∧ p x ∧ ∀ y ∈ back, ¬ p y := by
  induction xs with
  | nil =>
    obtain ⟨x, hx, -⟩ := h
    cases hx
  | cons x xs ih =>
    by_cases hlater : ∃ y ∈ xs, p y
    · obtain ⟨front, y, back, rfl, hy, hback⟩ := ih hlater
      exact ⟨x :: front, y, back, rfl, hy, hback⟩
    · refine ⟨[], x, xs, rfl, ?_, fun y hy hp => hlater ⟨y, hy, hp⟩⟩
      obtain ⟨y, hy, hp⟩ := h
      rcases List.mem_cons.1 hy with rfl | hy
      · exact hp
      · exact absurd ⟨y, hy, hp⟩ hlater

/-- A file has a plain name in a directory. -/
def GeneratedFile.LiesIn (file : GeneratedFile) (directory : Path) : Prop :=
  ∃ name, Path.IsPlainName name ∧ file.path = directory.join ⟨name⟩

namespace GeneratedFile

variable {file other : GeneratedFile} {directory : Path} {name : String}

/-- A file that lies in a directory and is to be written goes to a name in it. -/
theorem LiesIn.exists_goesTo (h : file.LiesIn directory) (hchanged : file.status.isChanged) :
    ∃ name, file.GoesTo directory name := by
  obtain ⟨name, hname, hpath⟩ := h
  exact ⟨name, hchanged, hname, hpath⟩

/-- The path of a file in a directory tells its name. -/
theorem GoesTo.same_iff (h : file.GoesTo directory name) {text : String}
    (htext : Path.IsPlainName text) : file.path.same (directory.join ⟨text⟩) ↔ name = text := by
  rw [h.path_eq]
  exact Path.same_join_iff directory h.isPlainName htext

/-- A file goes to one name. -/
theorem GoesTo.name_unique {text : String} (h : file.GoesTo directory name)
    (htext : file.GoesTo directory text) : name = text :=
  (h.same_iff htext.isPlainName).1 ((htext.same_iff htext.isPlainName).2 rfl)

end GeneratedFile

/-- The files of models without slashes in their names lie in the directory. -/
theorem Generator.liesIn_of_not_mem {generator : Generator} {disk : Disk} {set : ModelSet}
    {files : List GeneratedFile}
    (hnames : ∀ name ∈ set.names, generator.language = .rust ∨ '/' ∉ name.toList)
    (h : generator.files disk set = .ok files) :
    ∀ file ∈ files, file.LiesIn generator.directory := by
  intro file hfile
  obtain ⟨name, model, target, hmodel, htarget, hsame⟩ := exists_of_mem_files h hfile
  refine ⟨target.fileName name, target.isPlainName_fileName_of_not_mem (target.not_mem_stem ?_), ?_⟩
  · exact (hnames name (List.mem_map_of_mem hmodel)).imp_left
      (Language.eq_rust_of_mem_targets htarget)
  · rw [hsame]
    rfl

namespace Disk

/-- Files are written one after the other, into the directory at a location. -/
inductive Writes (directory : Path) (location : Location) :
    Disk → List GeneratedFile → Disk → Prop where
  | done {disk : Disk} : Writes directory location disk [] disk
  | pass {disk after : Disk} {file : GeneratedFile} {files : List GeneratedFile} :
    file.status.isChanged = false → Writes directory location disk files after →
      Writes directory location disk (file :: files) after
  | put {disk after : Disk} {file : GeneratedFile} {files : List GeneratedFile} {name : String} :
    file.GoesTo directory name → isName name → disk.hasDirectory (location ++ [name]) = false →
      Writes directory location (disk.put (location ++ [name]) (.text file.contents)) files after →
        Writes directory location disk (file :: files) after

variable {disk base after : Disk} {directory : Path} {location target : Location}
  {file : GeneratedFile} {files : List GeneratedFile} {name : String} {count : Nat}

/-! ## A run of writes -/

namespace Writes

/-- Writing files leaves the ways to directories as they are. -/
theorem hasDirectoryAt (h : Writes directory location disk files after) {path : Path}
    (hthere : disk.HasDirectoryAt path target) : after.HasDirectoryAt path target := by
  induction h with
  | done => exact hthere
  | pass _ _ ih => exact ih hthere
  | put _ _ hfree _ ih => exact ih (hthere.put_text hfree)

/-- What has no name of a changed file is not touched. -/
theorem entry?_frame (h : Writes directory location disk files after)
    (hother : ∀ file ∈ files, ∀ name, file.GoesTo directory name → target ≠ location ++ [name]) :
    after.entry? target = disk.entry? target := by
  induction h with
  | done => rfl
  | pass _ _ ih => exact ih (List.forall_mem_cons.1 hother).2
  | put hfile _ hfree _ ih =>
    obtain ⟨hhead, hother⟩ := List.forall_mem_cons.1 hother
    rw [ih hother, entry?_put (ne_nil_of_not_hasDirectory hfree), if_neg (hhead _ hfile)]

/-- What a file was written to is a name that a file may have. -/
theorem isName (h : Writes directory location disk files after) (hmem : file ∈ files)
    (hfile : file.GoesTo directory name) : Disk.isName name := by
  induction h with
  | done => cases hmem
  | pass hunchanged _ ih =>
    rcases List.mem_cons.1 hmem with rfl | hmem
    · rw [hfile.isChanged] at hunchanged
      cases hunchanged
    · exact ih hmem
  | put hput hname _ _ ih =>
    rcases List.mem_cons.1 hmem with rfl | hmem
    · rwa [← hput.name_unique hfile]
    · exact ih hmem

/-- The last changed file of a name is what is there in the end. -/
theorem entry?_last (h : Writes directory location disk files after)
    {front back : List GeneratedFile} (hfiles : files = front ++ file :: back)
    (hfile : file.GoesTo directory name)
    (hlast : ∀ later ∈ back, later.status.isChanged → later.path ≠ file.path) :
    after.entry? (location ++ [name]) = some (.text file.contents) := by
  induction h generalizing front with
  | done => simp at hfiles
  | pass hunchanged _ ih =>
    cases front with
    | nil =>
      cases hfiles
      rw [hfile.isChanged] at hunchanged
      cases hunchanged
    | cons _ front =>
      cases hfiles
      exact ih rfl
  | put hput _ hfree hrest ih =>
    cases front with
    | nil =>
      cases hfiles
      obtain rfl := hput.name_unique hfile
      rw [hrest.entry?_frame, entry?_put (ne_nil_of_not_hasDirectory hfree), if_pos rfl]
      intro later hlater other hother heq
      obtain ⟨-, hname⟩ := List.append_inj' heq rfl
      refine hlast later hlater hother.isChanged ?_
      rw [hother.path_eq, hfile.path_eq, List.singleton_inj.1 hname]
    | cons _ front =>
      cases hfiles
      exact ih rfl

end Writes

/-! ## Writing what changed -/

/-- Where nothing is to be written, the disk stays as it is. -/
theorem writeChanged_of_unchanged (h : ∀ file ∈ files, file.status.isChanged = false) :
    disk.writeChanged files = (disk, .ok 0) := by
  induction files with
  | nil => rfl
  | cons file files ih =>
    obtain ⟨hfile, hfiles⟩ := List.forall_mem_cons.1 h
    rw [writeChanged_cons, if_neg (by simp [hfile]), ih hfiles]

/-- A file is written when it can be. -/
theorem of_writeChanged_cons (h : disk.HasDirectoryAt directory location)
    (hfile : file.GoesTo directory name)
    (hwritten : disk.writeChanged (file :: files) = (after, .ok count)) :
    isName name ∧ disk.hasDirectory (location ++ [name]) = false ∧ ∃ rest,
      (disk.put (location ++ [name]) (.text file.contents)).writeChanged files
        = (after, .ok rest) := by
  rw [writeChanged_cons, if_pos hfile.isChanged, hfile.path_eq, h.write_join hfile.isPlainName]
    at hwritten
  by_cases hcan : isName name ∧ disk.hasDirectory (location ++ [name]) = false
  · simp only [if_pos hcan, Prod.ext_iff, map_eq_ok_iff] at hwritten
    obtain ⟨hafter, rest, hrest, -⟩ := hwritten
    exact ⟨hcan.1, hcan.2, rest, Prod.ext hafter hrest⟩
  · simp [if_neg hcan] at hwritten

/-- Into a directory that is there, files are written one after the other. -/
theorem writes_of_writeChanged (h : disk.HasDirectoryAt directory location)
    (hfiles : ∀ file ∈ files, file.LiesIn directory)
    (hwritten : disk.writeChanged files = (after, .ok count)) :
    Writes directory location disk files after := by
  induction files generalizing disk count with
  | nil =>
    cases hwritten
    exact .done
  | cons file files ih =>
    obtain ⟨hfile, hfiles⟩ := List.forall_mem_cons.1 hfiles
    cases hchanged : file.status.isChanged with
    | false =>
      rw [writeChanged_cons, if_neg (by simp [hchanged])] at hwritten
      exact .pass hchanged (ih h hfiles hwritten)
    | true =>
      obtain ⟨name, hfile⟩ := hfile.exists_goesTo hchanged
      obtain ⟨hname, hfree, rest, hrest⟩ := of_writeChanged_cons h hfile hwritten
      exact .put hfile hname hfree (ih (h.put_text hfree) hfiles hrest)

/-- The first file that changed makes the directory. -/
theorem writeChanged_of_makeDirectory (hfiles : ∀ file ∈ files, file.LiesIn directory)
    (hchanged : ∃ file ∈ files, file.status.isChanged)
    (hmade : disk.makeDirectory directory = (base, some location)) :
    disk.writeChanged files = base.writeChanged files := by
  induction files with
  | nil =>
    obtain ⟨file, hfile, -⟩ := hchanged
    cases hfile
  | cons file files ih =>
    obtain ⟨⟨name, hname, hpath⟩, hfiles⟩ := List.forall_mem_cons.1 hfiles
    rw [writeChanged_cons, writeChanged_cons]
    cases hfirst : file.status.isChanged with
    | false =>
      have hlater : ∃ file ∈ files, file.status.isChanged := by simpa [hfirst] using hchanged
      rw [if_neg (by simp), if_neg (by simp), ih hfiles hlater]
    | true =>
      have hwrite : disk.write file.path (.text file.contents)
          = base.write file.path (.text file.contents) := by
        rw [hpath, write_join_of_makeDirectory hname hmade]
      rw [if_pos rfl, if_pos rfl, hwrite]

/-- Writing fails where the directory cannot be made and a file is to be written. -/
theorem writeChanged_of_makeDirectory_eq_none (hfiles : ∀ file ∈ files, file.LiesIn directory)
    (hchanged : ∃ file ∈ files, file.status.isChanged)
    (hmade : disk.makeDirectory directory = (base, none)) :
    disk.writeChanged files ≠ (after, .ok count) := by
  induction files with
  | nil =>
    obtain ⟨file, hfile, -⟩ := hchanged
    cases hfile
  | cons file files ih =>
    obtain ⟨⟨name, hname, hpath⟩, hfiles⟩ := List.forall_mem_cons.1 hfiles
    rw [writeChanged_cons]
    cases hfirst : file.status.isChanged with
    | false =>
      have hlater : ∃ file ∈ files, file.status.isChanged := by simpa [hfirst] using hchanged
      rw [if_neg (by simp)]
      exact ih hfiles hlater
    | true =>
      rw [if_pos rfl, hpath, write_join_of_makeDirectory_eq_none hname hmade]
      simp

/-- Either no file changed and nothing is done, or the directory is made and the files are written
there. -/
theorem exists_writes_of_writeChanged (hfiles : ∀ file ∈ files, file.LiesIn directory)
    (hwritten : disk.writeChanged files = (after, .ok count)) :
    (∀ file ∈ files, file.status.isChanged = false) ∧ after = disk ∨
      ∃ base location, disk.makeDirectory directory = (base, some location) ∧
        Writes directory location base files after := by
  by_cases hchanged : ∃ file ∈ files, file.status.isChanged
  · cases hmade : disk.makeDirectory directory with
    | mk base location? =>
      cases location? with
      | none => exact absurd hwritten (writeChanged_of_makeDirectory_eq_none hfiles hchanged hmade)
      | some location =>
        rw [writeChanged_of_makeDirectory hfiles hchanged hmade] at hwritten
        obtain ⟨-, hthere⟩ := makeDirectory_spec hmade
        exact .inr ⟨base, location, rfl, writes_of_writeChanged hthere hfiles hwritten⟩
  · have hnone : ∀ file ∈ files, file.status.isChanged = false := by
      intro file hfile
      rw [Bool.eq_false_iff]
      exact fun hfirst => hchanged ⟨file, hfile, hfirst⟩
    rw [writeChanged_of_unchanged hnone] at hwritten
    cases hwritten
    exact .inl ⟨hnone, rfl⟩

/-- Writing files leaves a tree. -/
theorem IsTree.writeChanged (h : disk.IsTree) : (disk.writeChanged files).1.IsTree := by
  induction files generalizing disk with
  | nil => exact h
  | cons file files ih =>
    rw [writeChanged_cons]
    split
    · have hwrite : (disk.write file.path (.text file.contents)).1.IsTree := h.write
      cases hdone : disk.write file.path (.text file.contents) with
      | mk next done =>
        rw [hdone] at hwrite
        cases done with
        | false => exact hwrite
        | true => exact ih hwrite
    · exact ih h

/-- Writing files leaves a tree, whatever the result. -/
theorem IsTree.of_writeChanged {result : Except Error Nat} (h : disk.IsTree)
    (hwritten : disk.writeChanged files = (after, result)) : after.IsTree := by
  have htree : (disk.writeChanged files).1.IsTree := h.writeChanged
  rwa [hwritten] at htree

end Disk

end PayloadModels
