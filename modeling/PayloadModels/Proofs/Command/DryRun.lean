import PayloadModels.Proofs.Command.Rendering
import PayloadModels.Proofs.Generation.Syncing

/-!
# Dry runs

A dry run of `generate` works out the files that the run itself works out, and tells what becomes of
them and which orphans there are; the run then does to the disk what was told, and no more
(`Run.dryRun_predicts`). Only orphans in a directory that is overlooked before the run has made
directories are not told (`Run.not_dryRun_tells_orphans`).
-/

namespace PayloadModels

open Naming

/-! ## Loading a project -/

/-- A configuration that was loaded is valid. -/
theorem Config.validate_of_load {disk : Disk} {path : Path} {config : Config}
    (h : Config.load disk path = .ok config) : config.validate = .ok () := by
  rw [Config.load] at h
  split at h
  · cases h
  · split at h
    · obtain ⟨parsed, hparsed, h⟩ := Json.exists_of_bind_eq_ok h
      cases h
      obtain ⟨read, -, hparsed⟩ := Json.exists_of_bind_eq_ok hparsed
      obtain ⟨⟨⟩, hvalid, hparsed⟩ := Json.exists_of_bind_eq_ok hparsed
      cases hparsed
      exact mapError_eq_ok_iff.1 hvalid
    · cases h

/-- The models of a project have of ASCII only letters, digits and underscores in their names. -/
theorem Project.isNameText_of_load {disk : Disk} {surroundings : Surroundings}
    {config output : Option Path} {language : Option Language} {project : Project}
    (h : Project.load disk surroundings config language output = .ok project) :
    ∀ name ∈ project.models.names, IsNameText name := by
  obtain ⟨loaded, hloaded, h⟩ := Json.exists_of_bind_eq_ok h
  obtain ⟨models, hmodels, h⟩ := Json.exists_of_bind_eq_ok h
  cases h
  exact ModelSet.isNameText_of_mem_names_ofConfig (Config.validate_of_load hloaded) hmodels

/-- The files of models with names in the form of identifiers lie in the output directory itself. -/
theorem Generator.liesIn_of_files {generator : Generator} {disk : Disk} {set : ModelSet}
    {files : List GeneratedFile} (hnames : ∀ name ∈ set.names, IsNameText name)
    (h : generator.files disk set = .ok files) :
    ∀ file ∈ files, file.LiesIn generator.directory :=
  liesIn_of_not_mem (fun name hname =>
    .inr fun hmem => not_isNameChar_slash (hnames name hname _ hmem)) h

namespace Run

variable {disk after : Disk} {surroundings : Surroundings} {config : Option Path} {verbose : Bool}
  {options : GenerateOptions} {lines : List String}

/-- What a run of `generate` does once its files are worked out. -/
theorem generate_eq_generateProject {project : Project} {files : List GeneratedFile}
    (hproject : Project.load disk surroundings config options.language options.output
      = .ok project)
    (hfiles : project.generator.files disk project.models = .ok files) :
    generate disk surroundings config verbose options
      = generateProject disk surroundings verbose options project files := by
  have hloaded : (do
      let project ← Project.load disk surroundings config options.language options.output
      return (project, ← project.render disk))
        = (.ok (project, files) : Except Error (Project × List GeneratedFile)) := by
    rw [hproject]
    show (project.render disk >>= _) = _
    rw [Project.render_eq, hfiles]
    rfl
  rw [generate, hloaded]

/-- What a run of `generate` does when nothing goes wrong. -/
theorem generate_eq_ok_iff :
    generate disk surroundings config verbose options = (after, .ok lines) ↔
      ∃ project files synced,
        Project.load disk surroundings config options.language options.output = .ok project ∧
        project.generator.files disk project.models = .ok files ∧
        project.generator.sync disk files (!options.dryRun) (options.prune && !options.dryRun)
          = (after, .ok synced) ∧
        Report.generated files project.config.directory options.dryRun verbose
            surroundings.colored
          ++ Report.orphans synced.orphans project.config.directory
            (options.prune && !options.dryRun) surroundings.colored = lines := by
  constructor
  · intro h
    rw [generate] at h
    split at h
    · cases h
    · next project files hloaded =>
      obtain ⟨loaded, hproject, hloaded⟩ := Json.exists_of_bind_eq_ok hloaded
      obtain ⟨worked, hfiles, hloaded⟩ := Json.exists_of_bind_eq_ok hloaded
      cases hloaded
      rw [Project.render_eq] at hfiles
      simp only [generateProject, Prod.ext_iff, map_eq_ok_iff] at h
      obtain ⟨hafter, synced, hsynced, hlines⟩ := h
      exact ⟨project, files, synced, hproject, hfiles, Prod.ext hafter hsynced, hlines⟩
  · rintro ⟨project, files, synced, hproject, hfiles, hsynced, rfl⟩
    rw [generate_eq_generateProject hproject hfiles]
    simp only [generateProject, hsynced]
    rfl

/-- A run leaves a tree, also when it fails. -/
theorem isTree_generate (h : disk.IsTree) :
    (generate disk surroundings config verbose options).1.IsTree := by
  rw [generate]
  split
  · exact h
  · exact Generator.isTree_sync h

/-- A dry run changes nothing and works out the files of the run itself. The run brings the disk up
to date: each path of a file that was told to change holds the text of the last such file, with
`prune` the orphans are gone, and every other file is as it was. Both tell the same orphans, unless
the directory of the files is overlooked before the run; then the dry run tells none. -/
theorem dryRun_predicts {dry real : Disk} {told lines : List String} (hdisk : disk.IsTree)
    (hdry : generate disk surroundings config verbose { options with dryRun := true }
      = (dry, .ok told))
    (hreal : generate disk surroundings config verbose { options with dryRun := false }
      = (real, .ok lines)) :
    dry = disk ∧ ∃ project files written count orphans,
      Project.load disk surroundings config options.language options.output = .ok project ∧
      project.generator.files disk project.models = .ok files ∧
      disk.writeChanged files = (written, .ok count) ∧
      project.generator.orphans written files = .ok orphans ∧
      told = Report.generated files project.config.directory true verbose surroundings.colored
        ++ Report.orphans (if disk.overlooks project.generator.directory then [] else orphans)
          project.config.directory false surroundings.colored ∧
      lines = Report.generated files project.config.directory false verbose surroundings.colored
        ++ Report.orphans orphans project.config.directory options.prune surroundings.colored ∧
      disk.Updated files (if options.prune then orphans else []) real := by
  obtain ⟨project, files, found, hproject, hfiles, hfound, htold⟩ :=
    generate_eq_ok_iff.1 hdry
  obtain ⟨again, worked, synced, hagain, hworked, hsynced, hlines⟩ :=
    generate_eq_ok_iff.1 hreal
  cases hproject.symm.trans hagain
  cases hfiles.symm.trans hworked
  simp only [Bool.not_true, Bool.and_false, Bool.not_false, Bool.and_true] at *
  have hlie := Generator.liesIn_of_files (Project.isNameText_of_load hproject) hfiles
  obtain ⟨written, hwritten, horphans, -⟩ := Generator.sync_eq_ok_iff.1 hsynced
  rw [Generator.orphans_sync hdisk hlie hfound hsynced] at htold
  rw [Generator.sync_dry, Prod.mk.injEq] at hfound
  exact ⟨hfound.1.symm, project, files, written, synced.written, synced.orphans, hproject, hfiles,
    hwritten, horphans, htold.symm, hlines.symm, Generator.updated_of_sync hdisk hlie hsynced⟩

/-! ## A stale file -/

/-- A project with one model, and with a generated file that no model has any more. -/
def staleDisk : Disk :=
  let config := (Disk.startingAt []).write ⟨"modelsync.yaml"⟩ (.text
    "language: swift\nmodels: [\x7bname: Rating, sources: [rating.json]\x7d]")
  let sample := config.1.write ⟨"rating.json"⟩ (.text "\x7b\x7d")
  (sample.1.write ⟨"Models/Review.swift"⟩ (.text "Auto-Generated using modelsync")).1

/-- The files go to where the stale file is, by way of a directory that is missing. -/
def staleOptions : GenerateOptions :=
  { output := some ⟨"draft/../Models"⟩
    language := none
    dryRun := false
    prune := true }

/-- Everything on the disk with an old model lies in a directory. -/
theorem isTree_staleDisk : staleDisk.IsTree := Disk.isTree_startingAt_nil.write.write.write

/-- The configuration of the project. -/
def staleConfig : Config :=
  { project := none
    author := none
    company := none
    language := .swift
    package := none
    outputDirectory := Config.defaultOutput
    models := [⟨"Rating", ["rating.json"]⟩]
    directory := ⟨"/"⟩ }

/-- The project, with a directory that its files go to. -/
def ratingProject (surroundings : Surroundings) (directory : Path) : Project :=
  { config := staleConfig
    models := .ofSightings [.object "Rating" []]
    generator := ⟨.swift, staleConfig.imprint surroundings.today, directory⟩ }

/-- A disk with the configuration and the sample has the project. -/
theorem load_ratingProject {disk : Disk} (surroundings : Surroundings) (output : Option Path)
    (hload : (Config.load disk ⟨Config.fileName⟩).toOption = some staleConfig)
    (hread : disk.read? ((⟨"/"⟩ : Path).join ⟨"rating.json"⟩) = some "\x7b\x7d") :
    Project.load disk surroundings none none output
      = .ok (ratingProject surroundings (output.getD staleConfig.outputPath)) := by
  have hconfig : Config.load disk ⟨Config.fileName⟩ = .ok staleConfig := by
    cases hresult : Config.load disk ⟨Config.fileName⟩ with
    | error error => simp [hresult, Except.toOption] at hload
    | ok config => simpa [hresult, Except.toOption] using hload
  have hmodels : ModelSet.ofConfig disk staleConfig
      = .ok (.ofSightings [.object "Rating" []]) := by
    rw [ModelSet.ofConfig_eq, staleConfig, List.mapM_cons,
      ModelSet.samplesOf_emptyObject "Rating" (by decide) hread]
    rfl
  rw [Project.load, Option.getD_none, hconfig]
  show (ModelSet.ofConfig disk staleConfig >>= _) = _
  rw [hmodels]
  rfl

/-- Where no file has the name of the model's, the one that is generated is new. -/
theorem exists_files_ratingProject {disk : Disk} (surroundings : Surroundings) {directory : Path}
    (hfile : disk.isFile (directory.join ⟨"Rating.swift"⟩) = false) :
    ∃ file : GeneratedFile, file.model = "Rating" ∧ file.GoesTo directory "Rating.swift" ∧
      (ratingProject surroundings directory).generator.files disk
        (ratingProject surroundings directory).models = .ok [file] := by
  have hnames : (ratingProject surroundings directory).models.names = ["Rating"] := by
    rw [ratingProject, ModelSet.names_ofSightings]
    rfl
  have hname : Target.swift.fileName "Rating" = "Rating.swift" := by decide
  obtain ⟨⟨_, model⟩, hmodels, rfl⟩ := List.map_eq_singleton_iff.1 hnames
  refine ⟨(ratingProject surroundings directory).generator.file none "Rating" model .swift, rfl,
    ⟨rfl, ⟨by decide, rfl⟩, ?_⟩, ?_⟩
  · simp only [Generator.file, ratingProject, hname]
  · have hfileNames : Language.swift.fileNames ["Rating"] = ["Rating.swift"] := by decide
    rw [Generator.files_eq_created_of_previous, Generator.created, hmodels]
    · rfl
    · rw [hnames]
      show ∀ name ∈ Language.swift.fileNames ["Rating"], _
      rw [hfileNames, List.forall_mem_singleton, Generator.previous, ratingProject, hfile]
      rfl

/-- The project that is loaded. -/
def staleProject (surroundings : Surroundings) : Project :=
  ratingProject surroundings ⟨"draft/../Models"⟩

/-- On the disk with an old model, a project with the one model `Rating` is loaded. -/
theorem load_staleDisk (surroundings : Surroundings) (output : Option Path) :
    Project.load staleDisk surroundings none none output
      = .ok (ratingProject surroundings (output.getD staleConfig.outputPath)) :=
  load_ratingProject surroundings output (by decide +kernel) (by decide +kernel)

/-- The model's file is new. -/
theorem exists_files_staleDisk (surroundings : Surroundings) :
    ∃ file : GeneratedFile, file.GoesTo ⟨"draft/../Models"⟩ "Rating.swift" ∧
      (staleProject surroundings).generator.files staleDisk (staleProject surroundings).models
        = .ok [file] := by
  have hfree : staleDisk.isFile ((⟨"draft/../Models"⟩ : Path).join ⟨"Rating.swift"⟩) = false := by
    decide
  obtain ⟨file, -, hfile, hfiles⟩ := exists_files_ratingProject surroundings hfree
  exact ⟨file, hfile, hfiles⟩

/-- The disk once the missing directory was made. -/
def draftDisk : Disk := (staleDisk.makeDirectory ⟨"draft/../Models"⟩).1

/-- Everything on the disk with the new directory lies in a directory. -/
theorem isTree_draftDisk : draftDisk.IsTree :=
  isTree_staleDisk.makeWay fun _ => Path.not_mem_of_mem_pieces

/-- Making the way through the missing directory leaves the directory there and leads to `Models`.
-/
theorem makeDirectory_staleDisk :
    staleDisk.makeDirectory ⟨"draft/../Models"⟩ = (draftDisk, some ["Models"]) :=
  Prod.ext rfl (by decide)

/-- The stale file is found in it. -/
theorem orphans_draftDisk (surroundings : Surroundings) {files : List GeneratedFile}
    (hfiles : ∀ file ∈ files, file.GoesTo ⟨"draft/../Models"⟩ "Rating.swift") :
    (staleProject surroundings).generator.orphans draftDisk files
      = .ok [⟨"draft/../Models/Review.swift"⟩] := by
  have hnames : draftDisk.namesWithExtensions ⟨"draft/../Models"⟩ Language.swift.extensions
      = ["Review.swift"] := by decide
  have hspare : (staleProject surroundings).generator.isSpare files "Review.swift" := by
    rw [Generator.isSpare_iff]
    intro file hfile hsame
    have hname := ((hfiles file hfile).same_iff ⟨by decide, rfl⟩).1 hsame
    exact absurd hname (by decide)
  have hjoin : (⟨"draft/../Models"⟩ : Path).join ⟨"Review.swift"⟩
      = ⟨"draft/../Models/Review.swift"⟩ := by decide
  have hread : draftDisk.read? ⟨"draft/../Models/Review.swift"⟩
      = some "Auto-Generated using modelsync" := by decide
  have hmark : Generator.isGenerated "Auto-Generated using modelsync" := by decide
  rw [Generator.orphans_eq isTree_draftDisk]
  show Generator.generatedAmong draftDisk
    ((((draftDisk.namesWithExtensions ⟨"draft/../Models"⟩ Language.swift.extensions).mergeSort
      Path.nameLe).filter _).map fun name => (⟨"draft/../Models"⟩ : Path).join ⟨name⟩) = _
  rw [hnames, List.mergeSort_singleton, List.filter_cons_of_pos hspare, List.filter_nil,
    List.map_singleton, hjoin, Generator.generatedAmong, hread]
  simp only [hmark, if_true]
  rfl

/-- Both runs come to an end. The run itself removes the stale file, which the dry run does not
find. -/
theorem exists_sync_staleDisk (surroundings : Surroundings) : ∃ file real,
    file.GoesTo ⟨"draft/../Models"⟩ "Rating.swift" ∧
      (staleProject surroundings).generator.files staleDisk (staleProject surroundings).models
        = .ok [file] ∧
      (staleProject surroundings).generator.sync staleDisk [file] false false
        = (staleDisk, .ok ⟨0, []⟩) ∧
      (staleProject surroundings).generator.sync staleDisk [file] true true
        = (real, .ok ⟨1, [⟨"draft/../Models/Review.swift"⟩]⟩) := by
  obtain ⟨file, hfile, hfiles⟩ := exists_files_staleDisk surroundings
  have hgoes : ∀ other ∈ [file], other.GoesTo ⟨"draft/../Models"⟩ "Rating.swift" :=
    List.forall_mem_singleton.2 hfile
  have hlie : ∀ other ∈ [file], other.LiesIn (staleProject surroundings).generator.directory :=
    fun other hother => ⟨_, (hgoes other hother).isPlainName, (hgoes other hother).path_eq⟩
  have hlooks : staleDisk.overlooks ⟨"draft/../Models"⟩ := by decide
  have hseen : draftDisk.overlooks ⟨"draft/../Models"⟩ = false := by decide
  obtain ⟨-, hthere⟩ := Disk.makeDirectory_spec makeDirectory_staleDisk
  have hfree : draftDisk.hasDirectory (["Models"] ++ ["Rating.swift"]) = false := by decide
  obtain ⟨written, hwritten⟩ := Disk.exists_writeChanged hthere
    (fun other hother => ⟨_, hgoes other hother, hfree⟩) fun other hother name hname => by
      rw [← (hgoes other hother).name_unique hname]
      decide
  have horphans : (staleProject surroundings).generator.orphans written [file]
      = .ok [⟨"draft/../Models/Review.swift"⟩] := by
    rw [Generator.orphans_writeChanged isTree_draftDisk hlie hwritten hseen,
      orphans_draftDisk surroundings hgoes]
  have htree := isTree_draftDisk.of_writeChanged hwritten
  obtain ⟨real, hreal⟩ := Disk.exists_removeAll_orphans htree horphans
  refine ⟨file, real, hfile, hfiles, ?_, ?_⟩
  · rw [Generator.sync_dry, Generator.orphans_of_overlooks isTree_staleDisk hlooks]
    rfl
  · refine Generator.sync_eq_ok_iff.2 ⟨written, ?_, horphans, hreal⟩
    rw [Disk.writeChanged_of_makeDirectory hlie ⟨file, by simp, hfile.isChanged⟩
      makeDirectory_staleDisk, hwritten]
    rfl

/-- The runs of `generate` in the project. -/
theorem generate_staleDisk {surroundings : Surroundings} {file : GeneratedFile} {real : Disk}
    (hfiles : (staleProject surroundings).generator.files staleDisk
      (staleProject surroundings).models = .ok [file])
    (hdry : (staleProject surroundings).generator.sync staleDisk [file] false false
      = (staleDisk, .ok ⟨0, []⟩))
    (hreal : (staleProject surroundings).generator.sync staleDisk [file] true true
      = (real, .ok ⟨1, [⟨"draft/../Models/Review.swift"⟩]⟩)) :
    generate staleDisk surroundings none false { staleOptions with dryRun := true }
        = (staleDisk, .ok (Report.generated [file] ⟨"/"⟩ true false surroundings.colored)) ∧
      generate staleDisk surroundings none false { staleOptions with dryRun := false }
        = (real, .ok (Report.generated [file] ⟨"/"⟩ false false surroundings.colored
          ++ Report.orphans [⟨"draft/../Models/Review.swift"⟩] ⟨"/"⟩ true
            surroundings.colored)) := by
  constructor
  · exact generate_eq_ok_iff.2 ⟨staleProject surroundings, [file], ⟨0, []⟩,
      load_staleDisk surroundings _, hfiles, hdry, List.append_nil _⟩
  · exact generate_eq_ok_iff.2 ⟨staleProject surroundings, [file], _,
      load_staleDisk surroundings _, hfiles, hreal, rfl⟩

/-- The dry run leaves the disk alone. The run writes the file of the model and removes the stale
one. -/
theorem dryRun_predicts_rating : ∃ surroundings dry real told lines,
    staleDisk.IsTree ∧
      generate staleDisk surroundings none false { staleOptions with dryRun := true }
        = (dry, .ok told) ∧
      generate staleDisk surroundings none false { staleOptions with dryRun := false }
        = (real, .ok lines) ∧
      dry = staleDisk ∧ (real.read? ⟨"draft/../Models/Rating.swift"⟩).isSome ∧
      real.find? ⟨"draft/../Models/Review.swift"⟩ = none := by
  obtain ⟨file, real, hfile, hfiles, hdry, hreal⟩ := exists_sync_staleDisk ⟨⟨2018, 1, 4⟩, false⟩
  obtain ⟨hdryRun, hrealRun⟩ := generate_staleDisk hfiles hdry hreal
  obtain ⟨hsame, project, files, written, count, orphans, hproject, hworked, hwritten, horphans, -,
    -, hupdated⟩ := dryRun_predicts isTree_staleDisk hdryRun hrealRun
  cases hproject.symm.trans (load_staleDisk _ _)
  cases hworked.symm.trans hfiles
  obtain ⟨again, hagain, hfound, -⟩ := Generator.sync_eq_ok_iff.1 hreal
  cases hwritten.symm.trans hagain
  cases horphans.symm.trans hfound
  refine ⟨_, _, real, _, _, isTree_staleDisk, hdryRun, hrealRun, hsame, ?_, ?_⟩
  · have hpath : file.path = ⟨"draft/../Models/Rating.swift"⟩ := by
      rw [hfile.path_eq]
      decide
    rw [← hpath, hupdated.read?_last [] file [] rfl hfile.isChanged (by simp)]
    rfl
  · exact hupdated.find?_removed _ (List.mem_singleton_self _)

/-- In the project with the stale file the two runs do not tell the same: the run tells that it
removed the file, and the dry run nothing of it. -/
theorem not_dryRun_tells_orphans :
    ¬ ∀ (disk dry real : Disk) (surroundings : Surroundings) (config : Option Path)
      (verbose : Bool) (options : GenerateOptions) (told lines : List String), disk.IsTree →
        generate disk surroundings config verbose { options with dryRun := true }
          = (dry, .ok told) →
        generate disk surroundings config verbose { options with dryRun := false }
          = (real, .ok lines) →
        ∃ (files : List GeneratedFile) (orphans : List Path) (directory : Path),
          told = Report.generated files directory true verbose surroundings.colored
            ++ Report.orphans orphans directory false surroundings.colored ∧
          lines = Report.generated files directory false verbose surroundings.colored
            ++ Report.orphans orphans directory options.prune surroundings.colored := by
  intro h
  obtain ⟨file, real, hfile, hfiles, hdry, hreal⟩ := exists_sync_staleDisk ⟨⟨2018, 1, 4⟩, false⟩
  obtain ⟨hdryRun, hrealRun⟩ := generate_staleDisk hfiles hdry hreal
  obtain ⟨others, orphans, directory, htold, hlines⟩ :=
    h _ _ _ _ _ _ _ _ _ isTree_staleDisk hdryRun hrealRun
  have htold := congrArg List.length htold
  have hlines := congrArg List.length hlines
  -- The dry run has as many lines about files, and one at least about each orphan.
  simp only [Report.generated, Report.orphans, staleOptions, List.length_append, List.length_map,
    List.length_singleton, if_true, Bool.true_or] at htold hlines
  omega

end Run

end PayloadModels
