import PayloadModels.Command.Run
import PayloadModels.Proofs.Generation.Convergence
import PayloadModels.Proofs.Generation.Files

/-!
# Three ways to render a set

The files of a set are worked out by the generator (`Generator.files`), by the commands that show
progress (`Generator.renderModels`) and, whatever is on the disk, for printing
(`Generator.rendered`). The first two always agree (`Generator.snd_renderModels`). The third one
agrees with them where the files that are there can be read and have no hand edits
(`Generator.renderings_agree`).
-/

namespace PayloadModels

/-! ## Rendering with progress -/

/-- Whatever the reporter does, what is rendered of the models comes behind what is there
already. -/
theorem Reporter.snd_collect {σ ε α β : Type} (reporter : Reporter σ)
    (render : String → α → Except ε (List β)) (state : σ) (there : List β)
    (models : List (String × α)) :
    (reporter.collect render state there models).2
      = (models.mapM fun model => render model.1 model.2).map
        fun blocks : List (List β) => there ++ blocks.flatten := by
  induction models generalizing state there with
  | nil => simp [collect, Except.map, pure, Except.pure]
  | cons entry models ih =>
    obtain ⟨name, model⟩ := entry
    rw [collect, List.mapM_cons]
    dsimp only
    cases render name model with
    | error error => rfl
    | ok block =>
      dsimp only
      rw [ih]
      cases models.mapM fun model => render model.1 model.2 with
      | error error => rfl
      | ok blocks =>
        show Except.ok (there ++ block ++ blocks.flatten)
          = Except.ok (there ++ (block :: blocks).flatten)
        rw [List.flatten_cons, List.append_assoc]

/-- The files that are worked out with a sign of progress are those of the generator. -/
theorem Generator.snd_renderModels {σ : Type} (generator : Generator) (disk : Disk)
    (reporter : Reporter σ) (state : σ) (set : ModelSet) :
    (generator.renderModels disk reporter state set).2 = generator.files disk set := by
  rw [renderModels, Reporter.snd_collect, files]
  cases set.models.mapM fun model => generator.modelFiles disk model.1 model.2 with
  | error error => rfl
  | ok blocks => rfl

/-- The files of a project are those of its generator. -/
theorem Project.render_eq (disk : Disk) (project : Project) :
    project.render disk = project.generator.files disk project.models :=
  Generator.snd_renderModels project.generator disk .silent () project.models

/-! ## Rendering without a disk -/

namespace Generator

variable {generator : Generator} {disk : Disk} {set : ModelSet}

/-- The targets of the files of a set, each with the path that the file goes to. -/
def places (generator : Generator) (set : ModelSet) : List (Target × Path) :=
  set.names.flatMap fun name => generator.language.targets.map fun target =>
    (target, generator.directory.join ⟨target.fileName name⟩)

/-- No file of the set that is there has a hand edit. -/
def IsUnedited (generator : Generator) (disk : Disk) (set : ModelSet) : Prop :=
  ∀ place ∈ generator.places set, ∀ text, disk.read? place.2 = some text →
    HandEdit.ofText place.1 text = []

/-- Every file of the set that is there is a text. -/
def IsReadable (generator : Generator) (disk : Disk) (set : ModelSet) : Prop :=
  ∀ place ∈ generator.places set, disk.isFile place.2 → (disk.read? place.2).isSome

/-- Each model of a set has a place for each target of the language. -/
theorem mem_places {name : String} {model : ObservedModel} (hmodel : (name, model) ∈ set.models)
    {target : Target} (htarget : target ∈ generator.language.targets) :
    (target, generator.directory.join ⟨target.fileName name⟩) ∈ generator.places set := by
  have hname : name ∈ set.names := List.mem_map_of_mem hmodel
  exact List.mem_flatMap.2 ⟨name, hname, List.mem_map_of_mem htarget⟩

/-- The paths are those of the file names. -/
theorem map_snd_places : (generator.places set).map (·.2)
    = (generator.language.fileNames set.names).map fun name => generator.directory.join ⟨name⟩ := by
  rw [places, Language.fileNames, List.map_flatMap, List.map_flatMap]
  simp only [List.map_map, Function.comp_def]

/-- Each file name of the models of a set is that of a place. -/
theorem exists_mem_places {name : String}
    (hname : name ∈ generator.language.fileNames set.names) :
    ∃ place ∈ generator.places set, place.2 = generator.directory.join ⟨name⟩ := by
  have hmem : generator.directory.join ⟨name⟩ ∈ (generator.places set).map (·.2) := by
    rw [map_snd_places]
    exact List.mem_map_of_mem hname
  exact List.mem_map.1 hmem

/-- What is there before a run is the text that is read, unless a file is there that is no text. -/
theorem previous_eq_ok {path : Path} (h : disk.isFile path → (disk.read? path).isSome) :
    previous disk path = .ok (disk.read? path) := by
  cases hprevious : previous disk path with
  | ok old => rw [read?_of_previous hprevious]
  | error error =>
    rw [previous] at hprevious
    split at hprevious
    · cases hprevious
    · next hfile =>
      obtain ⟨text, hread⟩ := Option.isSome_iff_exists.1 (h (by simpa using hfile))
      rw [hread] at hprevious
      cases hprevious

/-- A file that a run could look at is a text. -/
theorem isSome_read?_of_previous {path : Path} {old : Option String}
    (h : previous disk path = .ok old) (hfile : disk.isFile path) : (disk.read? path).isSome := by
  rw [previous, hfile] at h
  cases hread : disk.read? path with
  | none =>
    rw [hread] at h
    cases h
  | some text => rfl

/-- A run cannot look at a file that is no text. -/
theorem previous_eq_error {path : Path} {error : Error} (h : previous disk path = .error error) :
    disk.isFile path ∧ disk.read? path = none ∧
      error = .fileUnreadable path.text "the file is no text" := by
  rw [previous] at h
  split at h
  · cases h
  · next hfile =>
    split at h
    · cases h
    · next hread =>
      cases h
      exact ⟨by simpa using hfile, hread, rfl⟩

/-- Without hand edits, it does not matter for the contents which file is there. -/
theorem contents_file {previous : Option String} {name : String} {model : ObservedModel}
    {target : Target} (h : ∀ text, previous = some text → HandEdit.ofText target text = []) :
    (generator.file previous name model target).contents
      = (generator.file none name model target).contents := by
  cases previous with
  | none => rfl
  | some text =>
    rw [file, file]
    dsimp only
    rw [Target.contents_revise, Target.contents_revise, Option.elim_some, h text rfl,
      Option.elim_none]

/-- A set is rendered when the files that are there can be read. -/
theorem files_eq_of_isReadable (h : generator.IsReadable disk set) :
    generator.files disk set = .ok (set.models.flatMap fun (name, model) =>
      generator.language.targets.map fun target =>
        generator.file (disk.read? (generator.directory.join ⟨target.fileName name⟩)) name model
          target) := by
  refine files_eq_of_previous disk.read? fun name hname => ?_
  obtain ⟨place, hplace, hpath⟩ := exists_mem_places hname
  exact previous_eq_ok (hpath ▸ h place hplace)

/-- A set is not rendered when a file that is there cannot be read. -/
theorem exists_of_files_eq_error {error : Error} (h : generator.files disk set = .error error) :
    ∃ place ∈ generator.places set, disk.isFile place.2 ∧ disk.read? place.2 = none ∧
      error = .fileUnreadable place.2.text "the file is no text" := by
  rw [files] at h
  cases hblocks : set.models.mapM fun (name, model) => generator.modelFiles disk name model with
  | ok blocks =>
    rw [hblocks] at h
    cases h
  | error first =>
    rw [hblocks] at h
    cases h
    obtain ⟨⟨name, model⟩, hmodel, hblock⟩ := exists_of_mapM_eq_error hblocks
    obtain ⟨target, htarget, hfile⟩ := exists_of_mapM_eq_error hblock
    refine ⟨_, mem_places hmodel htarget, ?_⟩
    rw [targetFile] at hfile
    cases hprevious : previous disk (generator.directory.join ⟨target.fileName name⟩) with
    | ok old =>
      rw [hprevious] at hfile
      cases hfile
    | error first =>
      rw [hprevious] at hfile
      cases hfile
      exact previous_eq_error hprevious

/-- When a run works out its files, it could read every file that is in their places. -/
theorem isReadable_of_files_eq_ok {files : List GeneratedFile}
    (h : generator.files disk set = .ok files) : generator.IsReadable disk set := by
  intro place hplace hfile
  obtain ⟨name, hname, hplace⟩ := List.mem_flatMap.1 hplace
  obtain ⟨target, htarget, rfl⟩ := List.mem_map.1 hplace
  obtain ⟨⟨_, model⟩, hmodel, rfl⟩ := List.mem_map.1 hname
  obtain ⟨blocks, hblocks, -⟩ := Json.exists_of_bind_eq_ok h
  obtain ⟨block, -, hblock⟩ := exists_of_mem_of_mapM hblocks hmodel
  obtain ⟨file, -, hrendered⟩ := exists_of_mem_of_mapM hblock htarget
  obtain ⟨old, hprevious, -⟩ := Json.exists_of_bind_eq_ok hrendered
  exact isSome_read?_of_previous hprevious hfile

/-- Without hand edits, the contents are those that are rendered for printing. -/
theorem map_contents_eq_rendered (hedits : generator.IsUnedited disk set) :
    (set.models.flatMap fun (name, model) => generator.language.targets.map fun target =>
      generator.file (disk.read? (generator.directory.join ⟨target.fileName name⟩)) name model
        target).map (fun file => (file.path, file.contents))
      = (generator.rendered set).map (.map (fun name => generator.directory.join ⟨name⟩) id) := by
  rw [rendered, List.map_flatMap, List.map_flatMap]
  refine List.flatMap_congr fun (name, model) hmodel => ?_
  dsimp only
  rw [List.map_map, List.map_map]
  refine List.map_congr_left fun target htarget => ?_
  exact congrArg _ (contents_file (hedits _ (mem_places hmodel htarget)))

/-- The files of a set of models are the same whichever way they are worked out, whatever the
reporter does; and where none of the files that are there has a hand edit, their names and contents
are those that are rendered for printing. Only a file that is no text keeps the set from being
rendered. Where no file is there, all of them are new. -/
theorem renderings_agree (hedits : generator.IsUnedited disk set) :
    (∀ (σ : Type) (reporter : Reporter σ) (state : σ),
        (generator.renderModels disk reporter state set).2 = generator.files disk set) ∧
      (generator.IsReadable disk set → ∃ files, generator.files disk set = .ok files ∧
        files.map (fun file => (file.path, file.contents))
          = (generator.rendered set).map (.map (fun name => generator.directory.join ⟨name⟩) id) ∧
        ((∀ name ∈ generator.language.fileNames set.names, Path.IsPlainName name) →
          files.map (fun file => (file.path.fileName?, file.contents))
            = (generator.rendered set).map (.map some id))) ∧
      (¬ generator.IsReadable disk set → ∃ place ∈ generator.places set,
        disk.isFile place.2 ∧ disk.read? place.2 = none ∧
          generator.files disk set
            = .error (.fileUnreadable place.2.text "the file is no text")) ∧
      ((∀ place ∈ generator.places set, disk.isFile place.2 = false) →
        ∃ files, generator.files disk set = .ok files ∧
          ∀ file ∈ files, file.status = .created) := by
  refine ⟨fun σ reporter state => snd_renderModels generator disk reporter state set,
    fun hread => ?_, fun hread => ?_, fun hfree => ?_⟩
  · have hpairs := map_contents_eq_rendered hedits
    refine ⟨_, files_eq_of_isReadable hread, hpairs, fun hplain => ?_⟩
    have hnames := congrArg (List.map (Prod.map Path.fileName? id)) hpairs
    rw [List.map_map, List.map_map] at hnames
    refine hnames.trans (List.map_congr_left fun file hmem => ?_)
    obtain ⟨⟨model, _⟩, hmodel, hmem⟩ := List.mem_flatMap.1 hmem
    obtain ⟨target, htarget, heq⟩ := List.mem_map.1 hmem
    cases heq
    have hname : model ∈ set.names := List.mem_map_of_mem hmodel
    have hfileName : target.fileName model ∈ generator.language.fileNames set.names :=
      List.mem_flatMap.2 ⟨model, hname, List.mem_map_of_mem htarget⟩
    exact Prod.ext (Path.fileName?_join generator.directory (hplain _ hfileName)) rfl
  · cases hfiles : generator.files disk set with
    | ok files => exact absurd (isReadable_of_files_eq_ok hfiles) hread
    | error error =>
      obtain ⟨place, hplace, hfile, hnone, rfl⟩ := exists_of_files_eq_error hfiles
      exact ⟨place, hplace, hfile, hnone, rfl⟩
  · refine ⟨generator.created set, files_eq_created_of_previous fun name hname => ?_, ?_⟩
    · obtain ⟨place, hplace, hpath⟩ := exists_mem_places hname
      rw [previous, ← hpath, hfree place hplace]
      rfl
    · intro file hfile
      obtain ⟨⟨name, model⟩, -, hfile⟩ := List.mem_flatMap.1 hfile
      obtain ⟨target, -, rfl⟩ := List.mem_map.1 hfile
      rfl

/-! ## A file that is there -/

/-- The generator of a model that has a file of that name. -/
def ratingGenerator : Generator :=
  ⟨.swift, ⟨"Shop", some "Ada", none, none, ⟨2018, 1, 4⟩⟩, ⟨"Models"⟩⟩

/-- The model has no properties. -/
def ratingSet : ModelSet := .ofSightings [.object "Rating" []]

/-- A disk on which something is where the file of the model goes. -/
def ratingDisk (entry : Disk.Entry) : Disk :=
  ((Disk.startingAt []).write ⟨"Models/Rating.swift"⟩ entry).1

/-- The one place of the model `Rating` in Swift. -/
theorem places_ratingSet : ratingGenerator.places ratingSet
    = [(.swift, ⟨"Models/Rating.swift"⟩)] := by
  have hnames : ratingSet.names = ["Rating"] := by
    rw [ratingSet, ModelSet.names_ofSightings]
    rfl
  rw [places, hnames]
  decide

/-- An earlier file of the model, which no one has edited, is rendered again as it is printed. -/
theorem renderings_agree_rating :
    let disk := ratingDisk (.text "struct Rating: Codable \x7b\n\x7d")
    ratingGenerator.IsUnedited disk ratingSet ∧
      ∃ files, ratingGenerator.files disk ratingSet = .ok files ∧
        files.map (fun file => (file.path, file.contents))
          = (ratingGenerator.rendered ratingSet).map
            (.map (fun name => ratingGenerator.directory.join ⟨name⟩) id) := by
  intro disk
  have hread : disk.read? ⟨"Models/Rating.swift"⟩ = some "struct Rating: Codable \x7b\n\x7d" := by
    decide
  have hedits : ratingGenerator.IsUnedited disk ratingSet := by
    rw [IsUnedited, places_ratingSet, List.forall_mem_singleton]
    intro text htext
    cases hread.symm.trans htext
    decide
  have hreadable : ratingGenerator.IsReadable disk ratingSet := by
    rw [IsReadable, places_ratingSet, List.forall_mem_singleton, hread]
    exact fun _ => rfl
  obtain ⟨-, hrendered, -⟩ := renderings_agree hedits
  obtain ⟨files, hfiles, hpairs, -⟩ := hrendered hreadable
  exact ⟨hedits, files, hfiles, hpairs⟩

/-- A file that is no text has no hand edits, and no set is rendered over it. -/
theorem not_files_eq_rendered :
    ¬ ∀ (generator : Generator) (disk : Disk) (set : ModelSet), generator.IsUnedited disk set →
      ∃ files, generator.files disk set = .ok files ∧
        files.map (fun file => (file.path.fileName?, file.contents))
          = (generator.rendered set).map (.map some id) := by
  intro hall
  have hfile : (ratingDisk (.binary [0xff])).isFile ⟨"Models/Rating.swift"⟩ = true := by
    decide
  have hread : (ratingDisk (.binary [0xff])).read? ⟨"Models/Rating.swift"⟩ = none := by
    decide
  have hedits : ratingGenerator.IsUnedited (ratingDisk (.binary [0xff])) ratingSet := by
    rw [IsUnedited, places_ratingSet, List.forall_mem_singleton]
    intro text htext
    cases hread.symm.trans htext
  obtain ⟨files, hfiles, -⟩ := hall ratingGenerator (ratingDisk (.binary [0xff])) ratingSet hedits
  have hreadable := isReadable_of_files_eq_ok hfiles
  rw [IsReadable, places_ratingSet, List.forall_mem_singleton, hread] at hreadable
  cases hreadable hfile

end Generator

end PayloadModels
