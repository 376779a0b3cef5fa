import PayloadModels.Proofs.Generation.Convergence
import PayloadModels.Proofs.Generation.Syncing

/-!
# Which files are pruned

The orphans of a run are the files of the language, directly inside the directory, that carry the
mark of generated files and are none of the run's own (`Generator.mem_orphans`). Every file that a
run has written, or has left alone, carries the mark (`Generator.exists_generated_text`), so what an
earlier run has left is found when its model is gone.

Files are compared by their paths. When the names of the models have no slashes, their files lie in
the directory itself and different paths lead to different files; so no file of the run is removed
(`Generator.prune_exact`). A slash in a name can lead out of the directory and back into it, and
then a file of the run itself is taken for an orphan (`Generator.not_prune_keeps_files`).
-/

namespace PayloadModels

variable {disk after : Disk} {generator : Generator} {set : ModelSet} {files : List GeneratedFile}
  {paths orphans : List Path} {path : Path}

/-! ## The mark of generated files -/

/-- The line of a header that marks the file. -/
def generatedLine : String := "    " ++ generatedMark

/-- A text with the line of the mark counts as generated. -/
theorem isGenerated_of_mem_lines {text : String} (h : generatedLine ∈ Text.lines text) :
    Generator.isGenerated text := by
  have hmark : generatedMark.toList <:+: generatedLine.toList := by
    refine ⟨"    ".toList, [], ?_⟩
    rw [generatedLine, String.toList_append, List.append_nil]
  exact Text.contains_iff.2 (hmark.trans (Text.infix_of_mem_lines h))

/-- Every header has the line of the mark. -/
theorem mem_lines_header (imprint : Imprint) (fileName comment : String) :
    generatedLine ∈ Text.lines (imprint.header fileName comment) := by
  rw [Imprint.header, Text.lines_unlines (by simp), List.mem_flatMap]
  refine ⟨generatedLine, by simp [generatedLine], ?_⟩
  rw [Text.lines_eq_singleton (by decide)]
  exact List.mem_singleton_self _

/-- A rendered file has the line. -/
theorem Target.mem_lines_fileOf (target : Target) (edition : Edition) (edits : List HandEdit) :
    generatedLine ∈ Text.lines (target.fileOf edition edits) := by
  have hheader : edition.imprint.header (target.fileName edition.model) target.lineComment
      ∈ target.above edition := by simp [above]
  rw [fileOf_eq, Text.lines_unlines (by simp [above]), List.mem_flatMap]
  exact ⟨_, List.mem_append_left _ (List.mem_append_left _ hheader), mem_lines_header _ _ _⟩

/-- Texts that differ in dates only have the same other lines. -/
theorem Alike.mem_lines {old new line : String} (h : Alike old new) (hline : line ∈ Text.lines new)
    (hdated : isDated line = false) : line ∈ Text.lines old := by
  obtain ⟨other, hother, hsame | ⟨-, hdate⟩⟩ := exists_of_forall₂_of_mem h hline
  · exact hsame ▸ hother
  · rw [hdated] at hdate
    cases hdate

/-- A revision that leaves a file alone has its text, up to dates. -/
theorem Target.alike_of_not_isChanged {target : Target} {old : String} {edition : Edition}
    (h : (target.revise (some old) edition).status.isChanged = false) :
    Alike old (target.revise (some old) edition).contents := by
  rw [status_revise_some] at h
  cases hupdates : hasUpdates old (target.revise (some old) edition).contents with
  | true =>
    rw [hupdates] at h
    cases h
  | false => exact hasUpdates_eq_false_iff.1 hupdates

namespace Generator

/-- The files of a run carry the mark. -/
theorem isGenerated_contents (h : generator.files disk set = .ok files) {file : GeneratedFile}
    (hfile : file ∈ files) : isGenerated file.contents := by
  obtain ⟨name, model, target, -, -, heq⟩ := exists_of_mem_files h hfile
  rw [heq]
  exact isGenerated_of_mem_lines (target.mem_lines_fileOf _ _)

/-- A file that is left alone carries the mark. -/
theorem exists_of_not_isChanged (h : generator.files disk set = .ok files) {file : GeneratedFile}
    (hfile : file ∈ files) (hunchanged : file.status.isChanged = false) :
    ∃ text, disk.read? file.path = some text ∧ isGenerated text := by
  obtain ⟨name, model, target, -, -, heq⟩ := exists_of_mem_files h hfile
  cases hread : disk.read? file.path with
  | none =>
    rw [hread] at heq
    rw [heq] at hunchanged
    cases hunchanged
  | some old =>
    rw [hread] at heq
    rw [heq] at hunchanged
    have halike := Target.alike_of_not_isChanged hunchanged
    exact ⟨old, rfl, isGenerated_of_mem_lines
      (halike.mem_lines (target.mem_lines_fileOf _ _) (by decide))⟩

/-- After a run, each of its files carries the mark. -/
theorem exists_generated_text {count : Nat}
    (hlie : ∀ file ∈ files, file.LiesIn generator.directory)
    (h : generator.files disk set = .ok files)
    (hwritten : disk.writeChanged files = (after, .ok count)) {file : GeneratedFile}
    (hfile : file ∈ files) : ∃ text, after.read? file.path = some text ∧ isGenerated text := by
  cases hchanged : file.status.isChanged with
  | true =>
    obtain ⟨last, hlast, -, -, hread⟩ :=
      (Disk.updated_of_writeChanged hlie hwritten).exists_read? hfile hchanged
    exact ⟨last.contents, hread, isGenerated_contents h hlast⟩
  | false =>
    obtain ⟨text, hread, hmark⟩ := exists_of_not_isChanged h hfile hchanged
    rcases Disk.read?_of_writeChanged hlie hwritten hfile hread with hsame | ⟨last, hlast, hread⟩
    · exact ⟨text, hsame, hmark⟩
    · exact ⟨last.contents, hread, isGenerated_contents h hlast⟩

/-! ## What orphans are -/

/-- The generated files are those that read a text with the mark. -/
theorem mem_generatedAmong (h : generatedAmong disk paths = .ok orphans) :
    path ∈ orphans ↔ path ∈ paths ∧ ∃ text, disk.read? path = some text ∧ isGenerated text := by
  induction paths generalizing orphans with
  | nil =>
    cases h
    simp
  | cons first paths ih =>
    rw [generatedAmong] at h
    split at h
    · cases h
    · next text htext =>
      obtain ⟨rest, hrest, h⟩ := Json.exists_of_bind_eq_ok h
      cases h
      have hfirst : (∃ text, disk.read? first = some text ∧ isGenerated text)
          ↔ isGenerated text := by simp [htext]
      by_cases hmark : isGenerated text
      · rw [if_pos hmark, List.mem_cons, List.mem_cons, ih hrest, or_and_right]
        refine or_congr_left ⟨?_, And.left⟩
        rintro rfl
        exact ⟨rfl, hfirst.2 hmark⟩
      · rw [if_neg hmark, List.mem_cons, ih hrest, or_and_right]
        refine (or_iff_right ?_).symm
        rintro ⟨rfl, hthere⟩
        exact hmark (hfirst.1 hthere)

/-- Orphans are in the order of their paths, and each is there once. -/
theorem pairwise_orphans (hdisk : disk.IsTree)
    (horphans : generator.orphans disk files = .ok orphans) :
    orphans.Pairwise fun a b => compare a.parts b.parts = .lt := by
  rw [orphans_eq hdisk] at horphans
  refine List.Pairwise.sublist (sublist_of_generatedAmong horphans) ?_
  have hnodup := (List.mergeSort_perm _ Path.nameLe).nodup_iff.2
    (disk.nodup_namesWithExtensions generator.directory generator.language.extensions)
  have hsorted := Path.pairwise_mergeSort_nameLe
    (disk.namesWithExtensions generator.directory generator.language.extensions)
  rw [List.pairwise_map]
  refine ((hsorted.and hnodup).imp_of_mem fun {a b} ha hb hab => ?_).filter _
  have hplain := hdisk.isPlainName_of_mem_namesWithExtensions (List.mem_mergeSort.1 ha)
  have hother := hdisk.isPlainName_of_mem_namesWithExtensions (List.mem_mergeSort.1 hb)
  rw [Path.parts_join _ hplain, Path.parts_join _ hother, Path.compare_append_name]
  obtain ⟨hle, hne⟩ := hab
  cases hcompare : compare a b with
  | lt => rfl
  | eq => exact absurd (Std.LawfulEqOrd.eq_of_compare hcompare) hne
  | gt =>
    rw [Path.nameLe, hcompare] at hle
    cases hle

/-- An orphan is a file of the language that lies in the directory, carries the mark and is none of
the files given. -/
theorem mem_orphans (hdisk : disk.IsTree) (horphans : generator.orphans disk files = .ok orphans) :
    path ∈ orphans ↔ ∃ directory name text, disk.locate? generator.directory = some directory ∧
      path = generator.directory.join ⟨name⟩ ∧ disk.locate? path = some (directory ++ [name]) ∧
      disk.entry? (directory ++ [name]) = some (.text text) ∧
      (Path.extensionOf? name).any (· ∈ generator.language.extensions) ∧
      generatedMark.toList <:+: text.toList ∧ ∀ file ∈ files, ¬ file.path.same path := by
  rw [orphans_eq hdisk] at horphans
  rw [mem_generatedAmong horphans, List.mem_map]
  simp only [List.mem_filter, List.mem_mergeSort, isSpare_iff]
  constructor
  · rintro ⟨⟨name, ⟨hmem, hspare⟩, rfl⟩, text, hread, hmark⟩
    have hname := hdisk.isPlainName_of_mem_namesWithExtensions hmem
    obtain ⟨hempty, hfile, hextension⟩ := (hdisk.mem_namesWithExtensions_iff hname).1 hmem
    obtain ⟨entry, hentry, -⟩ := Disk.isFile_iff.1 hfile
    obtain ⟨directory, hdirectory, hlocate, hthere⟩ := Disk.exists_of_find?_join hname hentry
    refine ⟨directory, name, text, hdirectory.locate?_eq hempty, rfl, hlocate, ?_, hextension,
      Text.contains_iff.1 hmark, hspare⟩
    rw [Disk.read?, hentry] at hread
    cases entry with
    | text contents =>
      cases hread
      exact hthere
    | directory | binary => cases hread
  · rintro ⟨directory, name, text, hdirectory, rfl, hlocate, hentry, hextension, hmark, hspare⟩
    have hmem := (Disk.mem_namesWithExtensions hdirectory).2 ⟨⟨_, hentry, rfl⟩, hextension⟩
    refine ⟨⟨name, ⟨hmem, hspare⟩, rfl⟩, text, ?_, Text.contains_iff.2 hmark⟩
    rw [Disk.read?, Disk.find?, hlocate, Option.bind_some, hentry]

/-! ## What pruning removes -/

/-- A file of a run does not lie where an orphan lies. -/
theorem locate?_ne_of_mem_orphans (hdisk : disk.IsTree)
    (horphans : generator.orphans disk files = .ok orphans) (hpath : path ∈ orphans)
    {file : GeneratedFile} (hfile : file ∈ files) (hlies : file.LiesIn generator.directory) :
    disk.locate? file.path ≠ disk.locate? path := by
  obtain ⟨name, rfl, hname, hspare, hisFile⟩ := exists_of_mem_orphans hdisk horphans hpath
  obtain ⟨entry, hentry, -⟩ := Disk.isFile_iff.1 hisFile
  exact locate?_ne_of_isSpare hspare hname hfile hlies hentry

/-- What an earlier run has left is an orphan when it is no file of the run. -/
theorem mem_orphans_of_earlier (earlier : Generator) {start written : Disk} {older : ModelSet}
    {old : List GeneratedFile} {count : Nat} (hdisk : disk.IsTree)
    (horphans : generator.orphans disk files = .ok orphans)
    (hlanguage : earlier.language = generator.language)
    (hdirectory : earlier.directory = generator.directory)
    (hempty : generator.directory.text ≠ "")
    (hnames : ∀ name ∈ older.names,
      generator.language = .rust ∨ name ≠ "" ∧ '/' ∉ name.toList)
    (hold : earlier.files start older = .ok old)
    (hwritten : start.writeChanged old = (written, .ok count)) {file : GeneratedFile}
    (hfile : file ∈ old) (hkept : disk.read? file.path = written.read? file.path)
    (hother : ∀ other ∈ files, ¬ other.path.same file.path) : file.path ∈ orphans := by
  have hlie := liesIn_of_not_mem (fun name hname => by
    rw [hlanguage]
    exact (hnames name hname).imp_right And.right) hold
  obtain ⟨text, htext, hmark⟩ := exists_generated_text hlie hold hwritten hfile
  rw [← hkept] at htext
  obtain ⟨model, observed, target, hmodel, htarget, hsame⟩ := exists_of_mem_files hold hfile
  rw [hlanguage] at htarget
  have hrust := (hnames model (List.mem_map_of_mem hmodel)).imp_left
    (Language.eq_rust_of_mem_targets htarget)
  have hplain := target.isPlainName_fileName_of_not_mem
    (target.not_mem_stem (hrust.imp_right And.right))
  have hpath : file.path = generator.directory.join ⟨target.fileName model⟩ := by
    rw [hsame, ← hdirectory]
    rfl
  have hmem : target.fileName model
      ∈ disk.namesWithExtensions generator.directory generator.language.extensions := by
    rw [hdisk.mem_namesWithExtensions_iff hplain, ← hpath,
      Target.extensionOf?_fileName (target.stem_ne_empty (hrust.imp_right And.left))]
    refine ⟨by simpa using hempty, Disk.isFile_of_read? htext, ?_⟩
    simpa [Language.extensions] using ⟨target, htarget, rfl⟩
  have hspare : generator.isSpare files (target.fileName model) := by
    rw [isSpare_iff, ← hpath]
    exact hother
  rw [orphans_eq hdisk] at horphans
  rw [mem_generatedAmong horphans, hpath]
  rw [hpath] at htext
  refine ⟨List.mem_map_of_mem ?_, text, htext, hmark⟩
  exact List.mem_filter.2 ⟨List.mem_mergeSort.2 hmem, hspare⟩

/-- The orphans of a run are, in the order of their paths and once each, the files of the language
that lie in the directory, carry the mark and are none of the run's own. They can be removed, and
nothing else is touched. No file of the run is removed when the names of its models have no slashes;
in Rust no file has one. What an earlier run into the directory has left is found, if no later run
has it, unless the path of the directory is empty or the models have slashes or nothing in their
names. -/
theorem prune_exact {before : Disk} (hdisk : disk.IsTree)
    (hfiles : generator.files before set = .ok files)
    (horphans : generator.orphans disk files = .ok orphans) :
    orphans.Pairwise (fun a b => compare a.parts b.parts = .lt) ∧
      (∀ path, path ∈ orphans ↔ ∃ directory name text,
        disk.locate? generator.directory = some directory ∧
        path = generator.directory.join ⟨name⟩ ∧ disk.locate? path = some (directory ++ [name]) ∧
        disk.entry? (directory ++ [name]) = some (.text text) ∧
        (Path.extensionOf? name).any (· ∈ generator.language.extensions) ∧
        generatedMark.toList <:+: text.toList ∧ ∀ file ∈ files, ¬ file.path.same path) ∧
      (∃ pruned, disk.removeAll orphans = (pruned, .ok ()) ∧
        (∀ path ∈ orphans, pruned.find? path = none) ∧
        (∀ location, (∀ path ∈ orphans, disk.locate? path ≠ some location) →
          pruned.entry? location = disk.entry? location) ∧
        ((∀ name ∈ set.names, generator.language = .rust ∨ '/' ∉ name.toList) →
          ∀ file ∈ files, pruned.find? file.path = disk.find? file.path)) ∧
      ∀ (imprint : Imprint) (start written : Disk) (older : ModelSet) (old : List GeneratedFile)
        (count : Nat), generator.directory.text ≠ "" →
        (∀ name ∈ older.names, generator.language = .rust ∨ name ≠ "" ∧ '/' ∉ name.toList) →
        ({ generator with imprint := imprint } : Generator).files start older = .ok old →
        start.writeChanged old = (written, .ok count) →
        ∀ file ∈ old, disk.read? file.path = written.read? file.path →
          (∀ other ∈ files, ¬ other.path.same file.path) → file.path ∈ orphans := by
  refine ⟨pairwise_orphans hdisk horphans, fun path => mem_orphans hdisk horphans, ?_, ?_⟩
  · obtain ⟨pruned, hpruned⟩ := Disk.exists_removeAll_orphans hdisk horphans
    have hremoves := Disk.removesFiles_of_removeAll hpruned
    refine ⟨pruned, hpruned, fun path hpath => ?_, hremoves.entry?_frame,
      fun hnames file hfile => ?_⟩
    · rw [Disk.find?, hremoves.locate?_eq, Option.bind_eq_none_iff]
      exact hremoves.entry?_gone path hpath
    · rw [Disk.find?, Disk.find?, hremoves.locate?_eq]
      refine Option.bind_congr fun location hlocation => ?_
      refine hremoves.entry?_frame location fun path hpath => ?_
      rw [← hlocation]
      exact (locate?_ne_of_mem_orphans hdisk horphans hpath hfile
        (liesIn_of_not_mem hnames hfiles file hfile)).symm
  · intro imprint start written older old count hempty hnames hold hwritten file hfile hkept hother
    exact mem_orphans_of_earlier { generator with imprint := imprint } hdisk horphans rfl rfl hempty
      hnames hold hwritten hfile hkept hother

/-! ## A way out of the directory and back -/

/-- A disk with a generated file, beside a directory of drafts. -/
def draftsDisk : Disk :=
  let drafts := (Disk.startingAt []).write ⟨"Models/draft/Notes.txt"⟩ (.text "")
  (drafts.1.write ⟨"Models/Rating.swift"⟩ (.text "Auto-Generated using modelsync")).1

/-- Everything on the disk with drafts lies in a directory. -/
theorem isTree_draftsDisk : draftsDisk.IsTree := Disk.isTree_startingAt_nil.write.write

/-- A generator that writes to the directory. -/
def draftsGenerator : Generator :=
  ⟨.swift, ⟨"Shop", none, none, none, ⟨2018, 1, 4⟩⟩, ⟨"Models"⟩⟩

/-- A model of one name has one file there. -/
theorem exists_files_draftsGenerator (name : String) {old : Option String}
    (hold : previous draftsDisk ((⟨"Models"⟩ : Path).join ⟨Target.swift.fileName name⟩) = .ok old) :
    ∃ file : GeneratedFile, file.path = (⟨"Models"⟩ : Path).join ⟨Target.swift.fileName name⟩ ∧
      draftsGenerator.files draftsDisk (.ofSightings [.object name []]) = .ok [file] := by
  have hnames : (ModelSet.ofSightings [.object name []]).names = [name] := by
    rw [ModelSet.names_ofSightings]
    rfl
  obtain ⟨⟨own, model⟩, hmodels, hown⟩ := List.map_eq_singleton_iff.1 hnames
  obtain rfl : name = own := hown.symm
  have htarget : draftsGenerator.targetFile draftsDisk name model .swift
      = .ok (draftsGenerator.file old name model .swift) := by
    show (previous draftsDisk ((⟨"Models"⟩ : Path).join ⟨Target.swift.fileName name⟩) >>= _) = _
    rw [hold]
    rfl
  have hmodel : draftsGenerator.modelFiles draftsDisk name model
      = .ok [draftsGenerator.file old name model .swift] := by
    show [Target.swift].mapM _ = _
    rw [List.mapM_cons, htarget]
    rfl
  refine ⟨draftsGenerator.file old name model .swift, rfl, ?_⟩
  rw [Generator.files, hmodels, List.mapM_cons]
  simp only [hmodel]
  rfl

/-- The generated file is an orphan unless its path is that of a file of the run. -/
theorem orphans_draftsDisk (hspare : draftsGenerator.isSpare files "Rating.swift") :
    draftsGenerator.orphans draftsDisk files = .ok [⟨"Models/Rating.swift"⟩] := by
  have hnames : draftsDisk.namesWithExtensions ⟨"Models"⟩ Language.swift.extensions
      = ["Rating.swift"] := by decide +kernel
  have hjoin : (⟨"Models"⟩ : Path).join ⟨"Rating.swift"⟩ = ⟨"Models/Rating.swift"⟩ := by
    decide
  have hread : draftsDisk.read? ⟨"Models/Rating.swift"⟩
      = some "Auto-Generated using modelsync" := by decide +kernel
  have hmark : Generator.isGenerated "Auto-Generated using modelsync" := by decide
  rw [orphans_eq isTree_draftsDisk]
  show generatedAmong draftsDisk
    ((((draftsDisk.namesWithExtensions ⟨"Models"⟩ Language.swift.extensions).mergeSort
      Path.nameLe).filter _).map fun name => (⟨"Models"⟩ : Path).join ⟨name⟩) = _
  rw [hnames, List.mergeSort_singleton, List.filter_cons_of_pos hspare, List.filter_nil,
    List.map_singleton, hjoin, generatedAmong, hread]
  simp only [hmark, if_true]
  rfl

/-- The generated file is removed when its model is gone, and the run's own file would stay. -/
theorem prune_exact_drafts : ∃ files orphans pruned,
    draftsDisk.IsTree ∧
      draftsGenerator.files draftsDisk (.ofSightings [.object "Review" []]) = .ok files ∧
      draftsGenerator.orphans draftsDisk files = .ok orphans ∧
      draftsDisk.removeAll orphans = (pruned, .ok ()) ∧
      draftsDisk.isFile ⟨"Models/Rating.swift"⟩ ∧ pruned.find? ⟨"Models/Rating.swift"⟩ = none ∧
      ∀ file ∈ files, pruned.find? file.path = draftsDisk.find? file.path := by
  have hprevious : previous draftsDisk ((⟨"Models"⟩ : Path).join ⟨Target.swift.fileName "Review"⟩)
      = .ok none := by
    have hfile : draftsDisk.isFile ((⟨"Models"⟩ : Path).join ⟨Target.swift.fileName "Review"⟩)
        = false := by decide +kernel
    rw [previous, hfile]
    rfl
  obtain ⟨file, hpath, hfiles⟩ := exists_files_draftsGenerator "Review" hprevious
  have hspare : draftsGenerator.isSpare [file] "Rating.swift" := by
    rw [isSpare_iff, List.forall_mem_singleton, hpath]
    decide
  have horphans := orphans_draftsDisk hspare
  obtain ⟨-, -, ⟨pruned, hpruned, hgone, -, hkept⟩, -⟩ :=
    prune_exact isTree_draftsDisk hfiles horphans
  have hnames : ∀ name ∈ (ModelSet.ofSightings [.object "Review" []]).names,
      draftsGenerator.language = .rust ∨ '/' ∉ name.toList := by
    rw [ModelSet.names_ofSightings]
    decide
  exact ⟨_, _, pruned, isTree_draftsDisk, hfiles, horphans, hpruned, by decide +kernel,
    hgone _ (List.mem_singleton_self _), hkept hnames⟩

/-- A model whose name leads out of the directory and back into it has the generated file for its
own, under another path; the file is removed for an orphan. -/
theorem not_prune_keeps_files :
    ¬ ∀ (generator : Generator) (disk pruned : Disk) (set : ModelSet)
      (files : List GeneratedFile) (orphans : List Path), disk.IsTree →
        generator.files disk set = .ok files → generator.orphans disk files = .ok orphans →
        disk.removeAll orphans = (pruned, .ok ()) →
        ∀ file ∈ files, pruned.find? file.path = disk.find? file.path := by
  intro h
  have hjoin : (⟨"Models"⟩ : Path).join ⟨Target.swift.fileName "draft/../Rating"⟩
      = ⟨"Models/draft/../Rating.swift"⟩ := by decide
  have hread : draftsDisk.read? ⟨"Models/draft/../Rating.swift"⟩
      = some "Auto-Generated using modelsync" := by decide +kernel
  have hprevious : previous draftsDisk
      ((⟨"Models"⟩ : Path).join ⟨Target.swift.fileName "draft/../Rating"⟩)
        = .ok (some "Auto-Generated using modelsync") := by
    rw [hjoin, previous, Disk.isFile_of_read? hread, hread]
    rfl
  obtain ⟨file, hpath, hfiles⟩ := exists_files_draftsGenerator "draft/../Rating" hprevious
  rw [hjoin] at hpath
  have hspare : draftsGenerator.isSpare [file] "Rating.swift" := by
    rw [isSpare_iff, List.forall_mem_singleton, hpath]
    decide
  have horphans := orphans_draftsDisk hspare
  obtain ⟨pruned, hpruned⟩ := Disk.exists_removeAll_orphans isTree_draftsDisk horphans
  have hremoves := Disk.removesFiles_of_removeAll hpruned
  have hsame : draftsDisk.locate? ⟨"Models/draft/../Rating.swift"⟩
      = draftsDisk.locate? ⟨"Models/Rating.swift"⟩ := by decide +kernel
  have hgone : pruned.find? file.path = none := by
    rw [hpath, Disk.find?, hremoves.locate?_eq, hsame, Option.bind_eq_none_iff]
    exact hremoves.entry?_gone _ (List.mem_singleton_self _)
  have hkept := h _ _ _ _ _ _ isTree_draftsDisk hfiles horphans hpruned file
    (List.mem_singleton_self file)
  rw [hgone, hpath, Disk.read?_eq_some_iff.1 hread] at hkept
  cases hkept

end Generator

end PayloadModels
