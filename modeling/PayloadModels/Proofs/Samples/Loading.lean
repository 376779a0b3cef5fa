import PayloadModels.Proofs.Fallible
import PayloadModels.Proofs.Json.DistinctKeys
import PayloadModels.Proofs.Schema.Instances
import PayloadModels.Samples.Collection

/-!
# Sets that samples show

Collecting the models of payload files loads the files, one after another, and shows the objects of
all of them to a set (`ofFiles_eq`). So does collecting the models of a project, with the files of
each root model (`ofConfig_eq`). A file can be loaded when its text is an object, or an array of
objects that is not empty (`Payload.load_eq_ok_iff`), and every object that it holds has distinct
keys (`distinctKeys_of_load`), since it was read from a text.
-/

namespace PayloadModels

open Json

/-! ## Payloads -/

namespace Payload

/-- The value at the root of a payload, and the objects that it holds: an object holds itself, and
an array that is not empty holds its items, all of which are objects. -/
inductive Holds : Json → List Members → Prop where
  | object (members : Members) : Holds (.obj members) [members]
  | array {found : List Members} : found ≠ [] → Holds (.arr (found.map .obj)) found

/-- A payload holds an object. -/
theorem Holds.ne_nil {value : Json} {found : List Members} (h : Holds value found) :
    found ≠ [] := by
  cases h with
  | object members => exact List.cons_ne_nil members []
  | array hne => exact hne

/-- The items of an array are objects when all of them are. -/
theorem itemObjects_eq_ok_iff {index : Nat} {items : List Json} {found : List Members} :
    itemObjects index items = .ok found ↔ items = found.map .obj := by
  induction items generalizing index found with
  | nil => cases found <;> simp [itemObjects]
  | cons item items ih =>
    cases item with
    | obj members =>
      rw [itemObjects, map_eq_ok_iff]
      simp only [ih]
      cases found with
      | nil => simp
      | cons first rest => simp [and_comm]
    | _ => cases found <;> simp [itemObjects]

/-- The objects that are taken from a value are those that it holds. -/
theorem objects_eq_ok_iff {value : Json} {found : List Members} :
    objects value = .ok found ↔ Holds value found := by
  constructor
  · intro h
    unfold objects at h
    split at h
    · cases h
      exact .object _
    · cases h
    · next items hne =>
      rw [itemObjects_eq_ok_iff] at h
      subst h
      exact .array fun hnil => hne (by rw [hnil]; rfl)
    · cases h
  · intro h
    cases h with
    | object members => rfl
    | array hne =>
      obtain ⟨first, rest, rfl⟩ := List.exists_cons_of_ne_nil hne
      exact itemObjects_eq_ok_iff.2 rfl

/-- The payload files that can be loaded are the texts whose root holds objects. -/
theorem load_eq_ok_iff {disk : Disk} {path : Path} {found : List Members} :
    load disk path = .ok found ↔ ∃ text value, disk.read? path = some text ∧
      Json.parse text = .ok value ∧ Holds value found := by
  rw [load]
  cases hread : disk.read? path with
  | none => simp
  | some text =>
    constructor
    · intro h
      obtain ⟨value, hvalue, hobjects⟩ := exists_of_bind_eq_ok h
      rw [mapError_eq_ok_iff] at hvalue hobjects
      exact ⟨text, value, rfl, hvalue, objects_eq_ok_iff.1 hobjects⟩
    · rintro ⟨text, value, ⟨⟩, hvalue, hholds⟩
      simp only [hvalue]
      exact mapError_eq_ok_iff.2 (objects_eq_ok_iff.2 hholds)

/-- The objects of a payload file have distinct keys. -/
theorem distinctKeys_of_load {disk : Disk} {path : Path} {found : List Members}
    (h : load disk path = .ok found) : ∀ members ∈ found, (Json.obj members).DistinctKeys := by
  obtain ⟨text, value, -, hvalue, hholds⟩ := load_eq_ok_iff.1 h
  have hdistinct := distinctKeys_of_parse hvalue
  cases hholds with
  | object members => simpa using hdistinct
  | array =>
    intro members hmembers
    exact distinctKeys_arr_iff.1 hdistinct _ (List.mem_map_of_mem hmembers)

/-- The objects of several payload files have distinct keys. -/
theorem distinctKeys_of_mapM_load {disk : Disk} {files : List Path} {loaded : List (List Members)}
    (h : files.mapM (load disk) = .ok loaded) :
    ∀ members ∈ loaded.flatten, (Json.obj members).DistinctKeys := by
  intro members hmembers
  obtain ⟨objects, hobjects, hmembers⟩ := List.mem_flatten.1 hmembers
  obtain ⟨file, -, hfile⟩ := exists_of_mem_result_of_mapM h hobjects
  exact distinctKeys_of_load hfile members hmembers

end Payload

/-! ## Collecting -/

namespace ModelSet

/-- Showing objects one by one observes all of them. -/
theorem foldl_see_object (set : ModelSet) (name : String) (objects : List Members) :
    (objects.map (Sighting.object name)).foldl see set = set.observeAll name objects := by
  rw [List.foldl_map]
  rfl

/-- Observing files loads them, one after another, and shows the objects of all of them. -/
theorem observeFiles_eq (set : ModelSet) (disk : Disk) (name : String) (files : List Path) :
    set.observeFiles disk name files = (files.mapM (Payload.load disk)).map fun loaded =>
      (loaded.flatten.map (Sighting.object name)).foldl see set := by
  induction files generalizing set with
  | nil => rfl
  | cons file files ih =>
    rw [observeFiles, List.mapM_cons]
    cases hload : Payload.load disk file with
    | error error => rfl
    | ok objects =>
      show (set.observeAll name objects).observeFiles disk name files = _
      rw [ih]
      cases hrest : files.mapM (Payload.load disk) with
      | error error => rfl
      | ok loaded =>
        show Except.ok _ = Except.ok _
        simp only [List.flatten_cons, List.map_append, List.foldl_append, foldl_see_object]

/-- The models of files are those of the objects that the files hold. -/
theorem ofFiles_eq (disk : Disk) (name : String) (files : List Path) :
    ofFiles disk name files = (files.mapM (Payload.load disk)).map fun loaded =>
      ofSightings (loaded.flatten.map (Sighting.object name)) :=
  observeFiles_eq ∅ disk name files

/-- A source that is the path of a file means that file alone. -/
theorem sourceFiles_singleton {disk : Disk} {project : Path} {source : String}
    (hplain : Source.isPattern source = false) (hfile : disk.isFile (project.join ⟨source⟩)) :
    sourceFiles disk project [source] = .ok [project.join ⟨source⟩] := by
  have hresolve : Source.resolve disk project source = .ok [project.join ⟨source⟩] := by
    rw [Source.resolve, hplain]
    simp [hfile]
  rw [sourceFiles, List.mapM_cons, hresolve]
  show Except.ok ((Path.sort [project.join ⟨source⟩]).eraseRepsBy Path.same) = _
  rw [Path.sort, List.mergeSort_singleton]
  rfl

/-- What the samples of a root model show. -/
def samplesOf (disk : Disk) (project : Path) (model : ModelSource) :
    Except Error (List Sighting) := do
  let files ← sourceFiles disk project model.sources
  (files.mapM (Payload.load disk)).map fun loaded => loaded.flatten.map (Sighting.object model.name)

/-- A payload file with an empty object shows the model without keys. -/
theorem samplesOf_emptyObject {disk : Disk} {project : Path} {source : String} (name : String)
    (hplain : Source.isPattern source = false)
    (hread : disk.read? (project.join ⟨source⟩) = some "\x7b\x7d") :
    samplesOf disk project ⟨name, [source]⟩ = .ok [.object name []] := by
  have hfile : disk.isFile (project.join ⟨source⟩) := by
    rw [Disk.read?] at hread
    split at hread
    · next contents hfind => rw [Disk.isFile, hfind]; rfl
    · cases hread
  have hload : Payload.load disk (project.join ⟨source⟩) = .ok [[]] := by
    have hparse : Json.parse "\x7b\x7d" = .ok (.obj []) := by cbv
    rw [Payload.load, hread]
    simp only [hparse]
    rfl
  rw [samplesOf, sourceFiles_singleton hplain hfile]
  show (List.mapM (Payload.load disk) [project.join ⟨source⟩]).map _ = _
  rw [List.mapM_cons, hload]
  rfl

/-- Observing root models shows the samples of all of them. -/
theorem observeSources_eq (set : ModelSet) (disk : Disk) (project : Path)
    (models : List ModelSource) :
    set.observeSources disk project models = (models.mapM (samplesOf disk project)).map
      fun shown => shown.flatten.foldl see set := by
  induction models generalizing set with
  | nil => rfl
  | cons model models ih =>
    rw [observeSources, List.mapM_cons]
    cases hfiles : sourceFiles disk project model.sources with
    | error error =>
      rw [samplesOf, hfiles]
      rfl
    | ok files =>
      have hsamples : samplesOf disk project model = (files.mapM (Payload.load disk)).map
          fun loaded => loaded.flatten.map (Sighting.object model.name) := by
        rw [samplesOf, hfiles]
        rfl
      show (set.observeFiles disk model.name files).bind
        (fun set => set.observeSources disk project models) = _
      rw [observeFiles_eq, hsamples]
      cases hload : files.mapM (Payload.load disk) with
      | error error => rfl
      | ok loaded =>
        show observeSources _ disk project models = _
        rw [ih]
        cases hrest : models.mapM (samplesOf disk project) with
        | error error => rfl
        | ok shown =>
          show Except.ok (shown.flatten.foldl see _)
            = Except.ok ((_ :: shown).flatten.foldl see set)
          rw [List.flatten_cons, List.foldl_append]

/-- The models of a project are those that the samples of its root models show. -/
theorem ofConfig_eq (disk : Disk) (config : Config) :
    ofConfig disk config = (config.models.mapM (samplesOf disk config.directory)).map
      fun shown => ofSightings shown.flatten :=
  observeSources_eq ∅ disk config.directory config.models

end ModelSet

end PayloadModels
