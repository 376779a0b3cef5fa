import PayloadModels.Generation.Files
import PayloadModels.Proofs.Disk.Writing
import PayloadModels.Proofs.Generation.FileNames
import PayloadModels.Proofs.Samples.Names

/-!
# Files of different models

A run writes each model to files of its own (`distinct_paths_and_contents`), as long as the names of
the models stay different when files are named after them; only in Rust this can go wrong
(`not_distinct_paths`).
-/

namespace PayloadModels

open Naming

/-! ## Writing new files -/

/-- A file has changed and goes to a name in a directory. -/
structure GeneratedFile.GoesTo (file : GeneratedFile) (directory : Path) (name : String) :
    Prop where
  isChanged : file.status.isChanged
  isPlainName : Path.IsPlainName name
  path_eq : file.path = directory.join ⟨name⟩

namespace Disk

variable {disk after : Disk} {directory : Path} {location : Location} {file : GeneratedFile}
  {files : List GeneratedFile} {name : String} {count : Nat}

/-- Files are written one after another until one cannot be, and only those that are changed. -/
theorem writeChanged_cons (disk : Disk) (file : GeneratedFile) (files : List GeneratedFile) :
    disk.writeChanged (file :: files) =
      if file.status.isChanged then
        match disk.write file.path (.text file.contents) with
        | (disk, false) => (disk, .error (.fileUnwritable file.path.text "no file can be there"))
        | (disk, true) => ((disk.writeChanged files).1, (disk.writeChanged files).2.map (· + 1))
      else
        disk.writeChanged files := by
  show (if file.status.isChanged then _ else _) = _
  congr 1

/-- A file is written when its name is not too long, and then the others are. -/
theorem writeChanged_cons_eq_ok_iff (h : disk.HasDirectoryAt directory location)
    (hfile : file.GoesTo directory name) (hfree : disk.hasDirectory (location ++ [name]) = false) :
    disk.writeChanged (file :: files) = (after, .ok count)
      ↔ isName name ∧ ∃ rest, rest + 1 = count ∧
        (disk.put (location ++ [name]) (.text file.contents)).writeChanged files
          = (after, .ok rest) := by
  rw [writeChanged_cons, if_pos hfile.isChanged, hfile.path_eq, h.write_join hfile.isPlainName,
    hfree]
  by_cases hname : isName name
  · simp only [hname, true_and, if_true, Prod.ext_iff, map_eq_ok_iff]
    constructor
    · rintro ⟨hafter, rest, hrest, hcount⟩
      exact ⟨rest, hcount, hafter, hrest⟩
    · rintro ⟨rest, hcount, hafter, hrest⟩
      exact ⟨hafter, rest, hrest, hcount⟩
  · simp [hname]

/-- The names that files go to stay free of directories when one of the files is written. -/
theorem hasDirectory_put_of_goesTo {contents : String} (hfree : ∀ file ∈ files, ∃ name,
      file.GoesTo directory name ∧ disk.hasDirectory (location ++ [name]) = false)
    (hname : disk.hasDirectory (location ++ [name]) = false) :
    ∀ file ∈ files, ∃ other, file.GoesTo directory other ∧
      (disk.put (location ++ [name]) (.text contents)).hasDirectory (location ++ [other])
        = false := by
  intro file hfile
  obtain ⟨other, hother, hfree⟩ := hfree file hfile
  exact ⟨other, hother, by rwa [hasDirectory_put_text hname]⟩

/-- After files were written to different names in a directory, each of them holds its contents,
and every other name leads where it led. -/
theorem read?_writeChanged (h : disk.HasDirectoryAt directory location)
    (hfiles : ∀ file ∈ files, ∃ name,
      file.GoesTo directory name ∧ disk.hasDirectory (location ++ [name]) = false)
    (hdistinct : files.Pairwise fun a b => ¬ a.path.same b.path)
    (hwritten : disk.writeChanged files = (after, .ok count)) :
    (∀ file ∈ files, after.read? file.path = some file.contents) ∧
      ∀ name, Path.IsPlainName name →
        (∀ file ∈ files, ¬ (directory.join ⟨name⟩).same file.path) →
          after.find? (directory.join ⟨name⟩) = disk.find? (directory.join ⟨name⟩) := by
  induction files generalizing disk count with
  | nil =>
    cases hwritten
    exact ⟨by simp, fun _ _ _ => rfl⟩
  | cons file files ih =>
    obtain ⟨⟨name, hfile, hfree⟩, hfiles⟩ := List.forall_mem_cons.1 hfiles
    obtain ⟨hothers, hdistinct⟩ := List.pairwise_cons.1 hdistinct
    obtain ⟨hname, rest, -, hrest⟩ := (writeChanged_cons_eq_ok_iff h hfile hfree).1 hwritten
    have hput : (disk.put (location ++ [name]) (.text file.contents)).HasDirectoryAt directory
        location := h.put_text hfree
    obtain ⟨hread, hframe⟩ := ih hput (hasDirectory_put_of_goesTo hfiles hfree) hdistinct hrest
    have hfind : ∀ other, Path.IsPlainName other →
        (disk.put (location ++ [name]) (.text file.contents)).find? (directory.join ⟨other⟩)
          = if other = name then some (.text file.contents)
            else disk.find? (directory.join ⟨other⟩) := by
      intro other hother
      rw [hput.find?_join hother, h.find?_join hother,
        entry?_put (ne_nil_of_not_hasDirectory hfree)]
      by_cases heq : other = name
      · simp [heq, hname]
      · simp [heq]
    refine ⟨List.forall_mem_cons.2 ⟨?_, hread⟩, fun other hother hdiffers => ?_⟩
    · rw [hfile.path_eq] at hothers ⊢
      rw [read?, hframe name hfile.isPlainName hothers, hfind name hfile.isPlainName, if_pos rfl]
    · obtain ⟨hne, hdiffers⟩ := List.forall_mem_cons.1 hdiffers
      rw [hframe other hother hdiffers, hfind other hother, if_neg]
      rintro rfl
      exact hne (by simp [hfile.path_eq, Path.same])

/-- Files that go to names in a directory can be written when the names are not too long. -/
theorem exists_writeChanged (h : disk.HasDirectoryAt directory location)
    (hfiles : ∀ file ∈ files, ∃ name,
      file.GoesTo directory name ∧ disk.hasDirectory (location ++ [name]) = false)
    (hnames : ∀ file ∈ files, ∀ name, file.GoesTo directory name → isName name) :
    ∃ after, disk.writeChanged files = (after, .ok files.length) := by
  induction files generalizing disk with
  | nil => exact ⟨disk, rfl⟩
  | cons file files ih =>
    obtain ⟨⟨name, hfile, hfree⟩, hfiles⟩ := List.forall_mem_cons.1 hfiles
    obtain ⟨hname, hnames⟩ := List.forall_mem_cons.1 hnames
    obtain ⟨after, hafter⟩ := ih (h.put_text hfree) (hasDirectory_put_of_goesTo hfiles hfree) hnames
    refine ⟨after, (writeChanged_cons_eq_ok_iff h hfile hfree).2 ?_⟩
    exact ⟨hname name hfile, files.length, rfl, hafter⟩

end Disk

/-- A path leads to a directory with nothing in it. -/
def Disk.IsEmptyDirectory (disk : Disk) (path : Path) : Prop :=
  ∃ location, disk.HasDirectoryAt path location ∧
    ∀ name, disk.entry? (location ++ [name]) = none

namespace Generator

variable {generator : Generator} {disk after : Disk} {set : ModelSet} {files : List GeneratedFile}

/-! ## Paths -/

/-- A file goes to the output directory, under the name that the target gives it. -/
theorem path_of_targetFile {name : String} {model : ObservedModel} {target : Target}
    {file : GeneratedFile} (h : generator.targetFile disk name model target = .ok file) :
    file.path = generator.directory.join ⟨target.fileName name⟩ := by
  obtain ⟨old, -, hfile⟩ := Json.exists_of_bind_eq_ok h
  cases hfile
  rfl

/-- The text of the file at a path is what the path leads to. -/
theorem read?_of_previous {path : Path} {old : Option String} (h : previous disk path = .ok old) :
    disk.read? path = old := by
  rw [previous] at h
  split at h
  · next hfile =>
    cases h
    cases hfind : disk.find? path with
    | none => rw [Disk.read?, hfind]
    | some entry =>
      cases entry with
      | directory => rw [Disk.read?, hfind]
      | text | binary => simp [Disk.isFile, hfind, Disk.Entry.isFile] at hfile
  · split at h
    · next hread =>
      cases h
      exact hread
    · cases h

/-- A file is worked out from the model and from what its path reads. -/
theorem of_targetFile {name : String} {model : ObservedModel} {target : Target}
    {file : GeneratedFile} (h : generator.targetFile disk name model target = .ok file) :
    file = generator.file (disk.read? file.path) name model target := by
  have hpath := path_of_targetFile h
  obtain ⟨old, hold, hfile⟩ := Json.exists_of_bind_eq_ok h
  rw [hpath, read?_of_previous hold]
  cases hfile
  rfl

/-- The files of a run are those of its models and their targets. -/
theorem exists_of_mem_files (h : generator.files disk set = .ok files) {file : GeneratedFile}
    (hfile : file ∈ files) :
    ∃ name model target, (name, model) ∈ set.models ∧ target ∈ generator.language.targets ∧
      file = generator.file (disk.read? file.path) name model target := by
  obtain ⟨blocks, hblocks, hfiles⟩ := Json.exists_of_bind_eq_ok h
  cases hfiles
  obtain ⟨block, hblock, hfile⟩ := List.mem_flatten.1 hfile
  obtain ⟨⟨name, model⟩, hmodel, hblock⟩ := exists_of_mem_result_of_mapM hblocks hblock
  obtain ⟨target, htarget, hfile⟩ := exists_of_mem_result_of_mapM hblock hfile
  exact ⟨name, model, target, hmodel, htarget, of_targetFile hfile⟩

/-- The files of a run go to the file names of the models, in order, in the directory. -/
theorem map_path_files (h : generator.files disk set = .ok files) :
    files.map (·.path) = (generator.language.fileNames set.names).map fun name =>
      generator.directory.join ⟨name⟩ := by
  obtain ⟨lists, hlists, hfiles⟩ := Json.exists_of_bind_eq_ok h
  cases hfiles
  have hpaths : lists.map (·.map (·.path)) = set.models.map fun entry =>
      generator.language.targets.map fun target =>
        generator.directory.join ⟨target.fileName entry.1⟩ :=
    map_eq_map_of_mapM hlists fun _ _ hmodel =>
      map_eq_map_of_mapM hmodel fun _ _ htarget => path_of_targetFile htarget
  rw [List.map_flatten, hpaths, Language.fileNames, ModelSet.names, List.flatMap_map,
    List.map_flatMap, List.flatMap_def]
  simp [List.map_map, Function.comp_def]

/-- The files of a run are pairwise different when the file names are. -/
theorem pairwise_not_same_iff (hnames : ∀ name ∈ set.names, IsNameText name)
    (h : generator.files disk set = .ok files) :
    files.Pairwise (fun a b => ¬ a.path.same b.path)
      ↔ (generator.language.fileNames set.names).Nodup := by
  have hplain : ∀ name ∈ generator.language.fileNames set.names, Path.IsPlainName name := by
    intro file hfile
    obtain ⟨name, hname, hfile⟩ := List.mem_flatMap.1 hfile
    obtain ⟨target, -, rfl⟩ := List.mem_map.1 hfile
    exact target.isPlainName_fileName (hnames name hname)
  have hpairwise : files.Pairwise (fun a b => ¬ a.path.same b.path)
      ↔ (files.map (·.path)).Pairwise (fun a b => ¬ a.same b) := by
    rw [List.pairwise_map]
  rw [hpairwise, map_path_files h, List.pairwise_map]
  refine List.Pairwise.iff_of_mem fun {name other} hname hother => ?_
  rw [Path.same_join_iff generator.directory (hplain name hname) (hplain other hother)]

/-! ## Writing -/

/-- The files that a run makes where there are none. -/
def created (generator : Generator) (set : ModelSet) : List GeneratedFile :=
  set.models.flatMap fun (name, model) =>
    generator.language.targets.map (generator.file none name model)

/-- The files of a run when it is known what is there under the names that it uses. -/
theorem files_eq_of_previous (old : Path → Option String)
    (h : ∀ name ∈ generator.language.fileNames set.names,
      previous disk (generator.directory.join ⟨name⟩)
        = .ok (old (generator.directory.join ⟨name⟩))) :
    generator.files disk set = .ok (set.models.flatMap fun (name, model) =>
      generator.language.targets.map fun target =>
        generator.file (old (generator.directory.join ⟨target.fileName name⟩)) name model
          target) := by
  have hmodels : set.models.mapM (fun (name, model) => generator.modelFiles disk name model)
      = .ok (set.models.map fun (name, model) => generator.language.targets.map fun target =>
        generator.file (old (generator.directory.join ⟨target.fileName name⟩)) name model
          target) := by
    refine mapM_eq_ok_map fun (name, model) hmodel => mapM_eq_ok_map fun target htarget => ?_
    have hname : name ∈ set.names := List.mem_map_of_mem hmodel
    rw [targetFile, h _ (List.mem_flatMap.2 ⟨name, hname, List.mem_map_of_mem htarget⟩)]
    rfl
  rw [Generator.files, hmodels]
  rfl

/-- Where no file has a name that the run uses, all files are new. -/
theorem files_eq_created_of_previous
    (h : ∀ name ∈ generator.language.fileNames set.names,
      previous disk (generator.directory.join ⟨name⟩) = .ok none) :
    generator.files disk set = .ok (generator.created set) :=
  files_eq_of_previous (fun _ => none) h

/-- In an empty directory there is no file, so all files are new. -/
theorem files_eq_created (hnames : ∀ name ∈ set.names, IsNameText name)
    (h : disk.IsEmptyDirectory generator.directory) :
    generator.files disk set = .ok (generator.created set) := by
  obtain ⟨location, hdirectory, hempty⟩ := h
  refine files_eq_created_of_previous fun file hfile => ?_
  obtain ⟨name, hname, hfile⟩ := List.mem_flatMap.1 hfile
  obtain ⟨target, -, rfl⟩ := List.mem_map.1 hfile
  have hplain := target.isPlainName_fileName (hnames name hname)
  rw [previous, Disk.isFile, hdirectory.find?_join hplain, hempty]
  simp

/-- The files of new models go to names in the directory. -/
theorem exists_goesTo_of_mem_created (hnames : ∀ name ∈ set.names, IsNameText name)
    {file : GeneratedFile} (h : file ∈ generator.created set) :
    ∃ name ∈ generator.language.fileNames set.names, file.GoesTo generator.directory name := by
  obtain ⟨⟨name, model⟩, hmodel, hfile⟩ := List.mem_flatMap.1 h
  obtain ⟨target, htarget, rfl⟩ := List.mem_map.1 hfile
  have hname : name ∈ set.names := List.mem_map_of_mem hmodel
  refine ⟨target.fileName name, ?_, rfl, target.isPlainName_fileName (hnames name hname), rfl⟩
  exact List.mem_flatMap.2 ⟨name, hname, List.mem_map_of_mem htarget⟩

/-- The paths of the files of a run are pairwise different, unless the language is Rust and two
models have one name in snake case. In an empty directory all files are new; when their paths are
different, each of them holds the contents of its own model after they were written, and they can be
written unless a name is too long for a file. -/
theorem distinct_paths_and_contents {config : Config} (hvalid : config.validate = .ok ())
    {samples : Disk} {set : ModelSet} (hset : ModelSet.ofConfig samples config = .ok set)
    (generator : Generator) :
    (∀ disk files, generator.files disk set = .ok files →
      (files.Pairwise (fun a b => ¬ a.path.same b.path)
        ↔ (generator.language = .rust → (set.names.map Naming.snake).Nodup))) ∧
      ∀ disk : Disk, disk.IsEmptyDirectory generator.directory →
        generator.files disk set = .ok (generator.created set) ∧
          ((generator.language = .rust → (set.names.map Naming.snake).Nodup) →
            (∀ after count, disk.writeChanged (generator.created set) = (after, .ok count) →
              ∀ file ∈ generator.created set, after.read? file.path = some file.contents) ∧
            ((∀ name ∈ generator.language.fileNames set.names, Disk.isName name) →
              ∃ after, disk.writeChanged (generator.created set)
                = (after, .ok (generator.created set).length))) := by
  have hnames := ModelSet.isNameText_of_mem_names_ofConfig hvalid hset
  have hnodup := (ModelSet.consistent_of_ofConfig hset).nodup
  have hdistinct : ∀ disk files, generator.files disk set = .ok files →
      (files.Pairwise (fun a b => ¬ a.path.same b.path)
        ↔ (generator.language = .rust → (set.names.map Naming.snake).Nodup)) := by
    intro disk files hfiles
    rw [pairwise_not_same_iff hnames hfiles, Language.nodup_fileNames_iff _ hnames,
      Language.nodup_stems_iff _ hnodup]
  refine ⟨hdistinct, fun disk hempty => ?_⟩
  have hfiles := files_eq_created hnames hempty
  refine ⟨hfiles, fun hsnake => ?_⟩
  obtain ⟨location, hdirectory, hfree⟩ := hempty
  have hgoes : ∀ file ∈ generator.created set, ∃ name, file.GoesTo generator.directory name ∧
      disk.hasDirectory (location ++ [name]) = false := by
    intro file hfile
    obtain ⟨name, -, hname⟩ := exists_goesTo_of_mem_created hnames hfile
    exact ⟨name, hname, by simp [Disk.hasDirectory, hfree]⟩
  refine ⟨fun after count hwritten => ?_, fun hshort => ?_⟩
  · have hpairwise := (hdistinct disk _ hfiles).2 hsnake
    exact (Disk.read?_writeChanged hdirectory hgoes hpairwise hwritten).1
  · refine Disk.exists_writeChanged hdirectory hgoes fun file hfile name hname => ?_
    obtain ⟨other, hother, hgoes⟩ := exists_goesTo_of_mem_created hnames hfile
    have hsame := Path.same_join_iff generator.directory hname.isPlainName hgoes.isPlainName
    rw [← hname.path_eq, ← hgoes.path_eq] at hsame
    rw [hsame.1 (decide_eq_true rfl)]
    exact hshort other hother

/-! ## Two models -/

/-- A configuration with two models, which have one sample. -/
def twoModels (first second : String) : Config :=
  { project := none
    author := none
    company := none
    language := .rust
    package := none
    outputDirectory := Config.defaultOutput
    models := [⟨first, ["sample.json"]⟩, ⟨second, ["sample.json"]⟩]
    directory := ⟨""⟩ }

/-- A disk with that sample, an empty object, and with an empty directory for the files. -/
def twoModelsDisk : Disk :=
  ((Disk.startingAt []).put ["Models"] .directory).put ["sample.json"] (.text "\x7b\x7d")

/-- The set of two models, each with one empty object. -/
theorem ofConfig_twoModels (first second : String) :
    ModelSet.ofConfig twoModelsDisk (twoModels first second)
      = .ok (.ofSightings [.object first [], .object second []]) := by
  have hread : twoModelsDisk.read? ⟨"sample.json"⟩ = some "\x7b\x7d" := by decide
  have hsamples : ∀ name, ModelSet.samplesOf twoModelsDisk ⟨""⟩ ⟨name, ["sample.json"]⟩
      = .ok [.object name []] :=
    fun name => ModelSet.samplesOf_emptyObject name (by decide) hread
  rw [ModelSet.ofConfig_eq, twoModels, List.mapM_cons, List.mapM_cons, hsamples, hsamples]
  rfl

/-- There is nothing where the two models go. -/
theorem isEmptyDirectory_twoModelsDisk : twoModelsDisk.IsEmptyDirectory Config.defaultOutput := by
  refine ⟨["Models"], ?_, fun name => ?_⟩
  · have hroot : twoModelsDisk.hasDirectory [] := Disk.hasDirectory_nil _
    have hmodels : twoModelsDisk.hasDirectory ["Models"] := by decide
    exact .name hroot (by decide) (.here hmodels)
  · rw [twoModelsDisk, Disk.entry?_put (by simp), if_neg (by simp), Disk.entry?_put (by simp),
      if_neg (by simp)]
    simp [Disk.startingAt, Disk.way, Disk.entry?]

/-- The names `Order` and `OrderItem` stay different in snake case, so each of the two files holds
its own model. -/
theorem distinct_paths_and_contents_orders :
    let set := ModelSet.ofSightings [.object "Order" [], .object "OrderItem" []]
    let generator : Generator := ⟨.rust, ⟨"Shop", none, none, none, ⟨2018, 1, 4⟩⟩, ⟨"Models"⟩⟩
    (twoModels "Order" "OrderItem").validate = .ok () ∧
      ModelSet.ofConfig twoModelsDisk (twoModels "Order" "OrderItem") = .ok set ∧
      twoModelsDisk.IsEmptyDirectory generator.directory ∧
      ∃ after, twoModelsDisk.writeChanged (generator.created set) = (after, .ok 2) ∧
        ∀ file ∈ generator.created set, after.read? file.path = some file.contents := by
  intro set generator
  have hvalid : (twoModels "Order" "OrderItem").validate = .ok () := by rfl
  have hset := ofConfig_twoModels "Order" "OrderItem"
  have hnames : set.names = ["Order", "OrderItem"] := by
    rw [ModelSet.names_ofSightings]
    rfl
  have hempty : twoModelsDisk.IsEmptyDirectory generator.directory := isEmptyDirectory_twoModelsDisk
  obtain ⟨-, hwritten⟩ := distinct_paths_and_contents hvalid hset generator
  obtain ⟨-, hwritten⟩ := hwritten twoModelsDisk hempty
  obtain ⟨hcontents, hcan⟩ := hwritten fun _ => by
    rw [hnames]
    decide
  obtain ⟨after, hafter⟩ := hcan (by rw [hnames]; decide)
  have hlength : (generator.created set).length = 2 := by
    have hmodels : set.models.length = 2 := by
      rw [← List.length_map (·.1)]
      exact congrArg List.length hnames
    simp [created, List.length_flatMap, generator, Language.targets, hmodels, Language.mainTarget,
      Target.companion?]
  exact ⟨hvalid, hset, hempty, after, hlength ▸ hafter, hcontents after _ hafter⟩

/-- The names `FooBar` and `Foo_Bar` are one in snake case, so the second of the two models takes
the file of the first. -/
theorem not_distinct_paths :
    ¬ ∀ (config : Config) (samples disk : Disk) (set : ModelSet) (generator : Generator)
      (files : List GeneratedFile), config.validate = .ok () →
        ModelSet.ofConfig samples config = .ok set → generator.files disk set = .ok files →
        files.Pairwise (fun a b => ¬ a.path.same b.path) := by
  intro h
  have hvalid : (twoModels "FooBar" "Foo_Bar").validate = .ok () := by rfl
  have hset := ofConfig_twoModels "FooBar" "Foo_Bar"
  have hnames := ModelSet.isNameText_of_mem_names_ofConfig hvalid hset
  let generator : Generator := ⟨.rust, ⟨"Shop", none, none, none, ⟨2018, 1, 4⟩⟩, ⟨"Models"⟩⟩
  have hempty : twoModelsDisk.IsEmptyDirectory generator.directory := isEmptyDirectory_twoModelsDisk
  have hfiles := files_eq_created hnames hempty
  have hdistinct := h _ _ _ _ _ _ hvalid hset hfiles
  rw [pairwise_not_same_iff hnames hfiles, ModelSet.names_ofSightings] at hdistinct
  revert hdistinct
  decide

end Generator

end PayloadModels
