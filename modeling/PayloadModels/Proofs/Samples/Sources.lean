import Mathlib
import PayloadModels.Proofs.Disk.Order
import PayloadModels.Proofs.Samples.Loading

/-!
# Sources as sets

The sources of a root model mean files, and a file is one sample of the model, however many of the
sources mean it (`ModelSet.IsListing`). Which files those are is told by the sources as a set, up to
how the paths are spelled, and a path that is spelled otherwise has the same payload
(`Payload.load_eq_of_same`). So sources in another order, or with repetitions, show a model the same
samples in the same order (`ModelSet.samplesOf_eq_of_sameSources`).
-/

namespace PayloadModels

open Json

/-- What a file holds is held by the file at every path with the same parts that leads anywhere. -/
theorem Payload.load_eq_ok_of_same {disk : Disk} {path other : Path} (hsame : path.same other)
    {found : List Members} (h : load disk path = .ok found) {location : Location}
    (hother : disk.locate? other = some location) : load disk other = .ok found := by
  obtain ⟨text, value, htext, hvalue, hholds⟩ := load_eq_ok_iff.1 h
  have htext := Disk.read?_eq_some_of_same hsame htext hother
  exact load_eq_ok_iff.2 ⟨text, value, htext, hvalue, hholds⟩

/-- A path that is spelled otherwise has the same payload. -/
theorem Payload.load_eq_of_same {disk : Disk} {path other : Path} (hsame : path.same other)
    {objects found : List Members} (h : load disk path = .ok objects)
    (h' : load disk other = .ok found) : objects = found := by
  obtain ⟨text, value, htext, -, -⟩ := load_eq_ok_iff.1 h'
  obtain ⟨location, hlocation⟩ := Disk.exists_locate?_of_read? htext
  rw [load_eq_ok_of_same hsame h hlocation] at h'
  exact Except.ok.inj h'

namespace ModelSet

variable {disk : Disk} {project path : Path} {sources others : List String} {files kept : List Path}

/-! ## The files of sources -/

/-- One of the sources means the file. -/
def Means (disk : Disk) (project : Path) (sources : List String) (path : Path) : Prop :=
  ∃ source ∈ sources, ∃ found, Source.resolve disk project source = .ok found ∧ path ∈ found

/-- The files are those that the sources mean, each of them once. -/
structure IsListing (disk : Disk) (project : Path) (sources : List String) (files : List Path) :
    Prop where
  means : ∀ path ∈ files, Means disk project sources path
  exists_same : ∀ path, Means disk project sources path → ∃ file ∈ files, file.same path
  once : files.Pairwise fun path other => ¬ path.same other

/-- Sources mean files when each of them does, and then the files of all, in order and once each. -/
theorem sourceFiles_eq_ok_iff : sourceFiles disk project sources = .ok files
    ↔ ∃ found, sources.mapM (Source.resolve disk project) = .ok found ∧
        files = Path.distinct found.flatten := by
  rw [sourceFiles]
  cases sources.mapM (Source.resolve disk project) with
  | error error =>
    refine ⟨fun h => (by cases h), ?_⟩
    rintro ⟨found, hfound, -⟩
    cases hfound
  | ok found =>
    constructor
    · intro h
      cases h
      exact ⟨found, rfl, rfl⟩
    · rintro ⟨found, hfound, rfl⟩
      cases hfound
      rfl

/-- A path is among those that the sources were resolved to when one of the sources means it. -/
theorem mem_flatten_iff {found : List (List Path)}
    (h : sources.mapM (Source.resolve disk project) = .ok found) :
    path ∈ found.flatten ↔ Means disk project sources path := by
  rw [List.mem_flatten]
  constructor
  · rintro ⟨files, hfiles, hpath⟩
    obtain ⟨source, hsource, hresolve⟩ := exists_of_mem_result_of_mapM h hfiles
    exact ⟨source, hsource, files, hresolve, hpath⟩
  · rintro ⟨source, hsource, files, hresolve, hpath⟩
    obtain ⟨found, hfound, hresolved⟩ := exists_of_mem_of_mapM h hsource
    rw [hresolve] at hresolved
    cases hresolved
    exact ⟨files, hfound, hpath⟩

/-- The files of sources list what the sources mean. -/
theorem isListing_of_sourceFiles (h : sourceFiles disk project sources = .ok files) :
    IsListing disk project sources files := by
  obtain ⟨found, hfound, rfl⟩ := sourceFiles_eq_ok_iff.1 h
  refine ⟨fun path hpath => ?_, fun path hpath => ?_, Path.pairwise_distinct _⟩
  · exact (mem_flatten_iff hfound).1 (Path.mem_of_mem_distinct hpath)
  · have hparts : path.parts ∈ found.flatten.map Path.parts :=
      List.mem_map_of_mem ((mem_flatten_iff hfound).2 hpath)
    obtain ⟨file, hfile, heq⟩ := List.mem_map.1 (Path.mem_map_parts_distinct.2 hparts)
    exact ⟨file, hfile, decide_eq_true heq⟩

/-- What sources mean, more sources mean, too. -/
theorem Means.mono (h : sources ⊆ others) (hpath : Means disk project sources path) :
    Means disk project others path := by
  obtain ⟨source, hsource, hfound⟩ := hpath
  exact ⟨source, h hsource, hfound⟩

/-- The files of sources are told by the set of sources, up to how their paths are spelled. -/
theorem forall₂_same_of_sourceFiles (hsources : ∀ source, source ∈ sources ↔ source ∈ others)
    (h : sourceFiles disk project sources = .ok files)
    (h' : sourceFiles disk project others = .ok kept) :
    List.Forall₂ (fun path other => path.same other) files kept := by
  obtain ⟨found, hfound, rfl⟩ := sourceFiles_eq_ok_iff.1 h
  obtain ⟨found', hfound', rfl⟩ := sourceFiles_eq_ok_iff.1 h'
  have hparts : (Path.distinct found.flatten).map Path.parts
      = (Path.distinct found'.flatten).map Path.parts := by
    refine Path.map_parts_distinct_congr fun parts => ?_
    simp only [List.mem_map, mem_flatten_iff hfound, mem_flatten_iff hfound']
    constructor
    · rintro ⟨path, hpath, hparts⟩
      exact ⟨path, hpath.mono fun source => (hsources source).1, hparts⟩
    · rintro ⟨path, hpath, hparts⟩
      exact ⟨path, hpath.mono fun source => (hsources source).2, hparts⟩
  rw [← List.forall₂_eq_eq_eq, List.forall₂_map_left_iff, List.forall₂_map_right_iff] at hparts
  exact hparts.imp fun path other heq => decide_eq_true heq

/-! ## The samples of sources -/

/-- Files that are the same one by one load the same objects. -/
theorem loads_eq_of_forall₂_same
    (hfiles : List.Forall₂ (fun path other : Path => path.same other) files kept)
    {loaded loaded' : List (List Members)} (h : files.mapM (Payload.load disk) = .ok loaded)
    (h' : kept.mapM (Payload.load disk) = .ok loaded') : loaded = loaded' := by
  rw [mapM_eq_ok_iff] at h h'
  induction hfiles generalizing loaded loaded' with
  | nil =>
    cases h
    cases h'
    rfl
  | cons hsame _ ih =>
    cases h with
    | cons hfirst hrest =>
      cases h' with
      | cons hfirst' hrest' =>
        rw [Payload.load_eq_of_same hsame hfirst hfirst', ih hrest hrest']

/-- Two root models have one name and the same sources, in any order and any number. -/
def SameSources (model other : ModelSource) : Prop :=
  model.name = other.name ∧ ∀ source, source ∈ model.sources ↔ source ∈ other.sources

/-- Root models with the same sources have the same samples. -/
theorem samplesOf_eq_of_sameSources {model other : ModelSource} (hsame : SameSources model other)
    {shown shown' : List Sighting} (h : samplesOf disk project model = .ok shown)
    (h' : samplesOf disk project other = .ok shown') : shown = shown' := by
  obtain ⟨hname, hsources⟩ := hsame
  obtain ⟨files, hfiles, hshown⟩ := exists_of_bind_eq_ok h
  obtain ⟨kept, hkept, hshown'⟩ := exists_of_bind_eq_ok h'
  obtain ⟨loaded, hloaded, rfl⟩ := map_eq_ok_iff.1 hshown
  obtain ⟨loaded', hloaded', rfl⟩ := map_eq_ok_iff.1 hshown'
  have hpaths := forall₂_same_of_sourceFiles hsources hfiles hkept
  rw [loads_eq_of_forall₂_same hpaths hloaded hloaded', hname]

/-- Root models with the same sources show the same samples. -/
theorem mapM_samplesOf_eq_of_sameSources {models others : List ModelSource}
    (hmodels : List.Forall₂ SameSources models others) {shown shown' : List (List Sighting)}
    (h : models.mapM (samplesOf disk project) = .ok shown)
    (h' : others.mapM (samplesOf disk project) = .ok shown') : shown = shown' := by
  rw [mapM_eq_ok_iff] at h h'
  induction hmodels generalizing shown shown' with
  | nil =>
    cases h
    cases h'
    rfl
  | cons hsame _ ih =>
    cases h with
    | cons hfirst hrest =>
      cases h' with
      | cons hfirst' hrest' =>
        rw [samplesOf_eq_of_sameSources hsame hfirst hfirst', ih hrest hrest']

/-- The objects of a payload file; there are none when it cannot be loaded. -/
def loadedObjects (disk : Disk) (path : Path) : List Members :=
  (Payload.load disk path).toOption.getD []

/-- A file that can be loaded has its objects. -/
theorem load_eq_ok_loadedObjects {found : List Members} (h : Payload.load disk path = .ok found) :
    Payload.load disk path = .ok (loadedObjects disk path) := by
  rw [loadedObjects, h]
  rfl

/-- What a root model shows is in the files that its sources mean, each of which is loaded once. -/
theorem exists_listing_of_samplesOf {model : ModelSource} {shown : List Sighting}
    (h : samplesOf disk project model = .ok shown) :
    ∃ files, IsListing disk project model.sources files ∧
      (∀ file ∈ files, Payload.load disk file = .ok (loadedObjects disk file)) ∧
      shown = files.flatMap fun file => (loadedObjects disk file).map (.object model.name) := by
  obtain ⟨files, hfiles, hshown⟩ := exists_of_bind_eq_ok h
  obtain ⟨loaded, hloaded, rfl⟩ := map_eq_ok_iff.1 hshown
  have hload : ∀ file ∈ files, Payload.load disk file = .ok (loadedObjects disk file) := by
    intro file hfile
    obtain ⟨found, -, hfound⟩ := exists_of_mem_of_mapM hloaded hfile
    exact load_eq_ok_loadedObjects hfound
  refine ⟨files, isListing_of_sourceFiles hfiles, hload, ?_⟩
  rw [mapM_eq_ok_map hload] at hloaded
  cases hloaded
  rw [List.map_flatten, List.map_map, List.flatMap_def]
  rfl

/-- Root models whose sources differ only in their order and in how often they are listed give the
same set: the same models in the same order, with the same iterations and the same properties in the
same order. The set is what the files show that the sources of each root model mean, and each of
these files is observed once as a sample of the root model, however many of its sources mean it. -/
theorem ofConfig_eq_of_sameSources (disk : Disk) (config : Config) (models : List ModelSource)
    (hmodels : List.Forall₂ SameSources config.models models) {set other : ModelSet}
    (h : ofConfig disk config = .ok set)
    (h' : ofConfig disk { config with models := models } = .ok other) :
    set = other ∧ ∃ files : ModelSource → List Path,
      (∀ model ∈ config.models, IsListing disk config.directory model.sources (files model) ∧
        ∀ file ∈ files model, Payload.load disk file = .ok (loadedObjects disk file)) ∧
      set = ofSightings (config.models.flatMap fun model => (files model).flatMap fun file =>
        (loadedObjects disk file).map (Sighting.object model.name)) := by
  rw [ofConfig_eq, map_eq_ok_iff] at h h'
  obtain ⟨shown, hshown, rfl⟩ := h
  obtain ⟨shown', hshown', rfl⟩ := h'
  refine ⟨?_, ?_⟩
  · rw [mapM_samplesOf_eq_of_sameSources hmodels hshown hshown']
  · have hlisting : ∀ model, ∃ files, model ∈ config.models →
        IsListing disk config.directory model.sources files ∧
          (∀ file ∈ files, Payload.load disk file = .ok (loadedObjects disk file)) ∧
          samplesOf disk config.directory model = .ok (files.flatMap fun file =>
            (loadedObjects disk file).map (Sighting.object model.name)) := by
      intro model
      by_cases hmodel : model ∈ config.models
      · obtain ⟨sightings, -, hsightings⟩ := exists_of_mem_of_mapM hshown hmodel
        obtain ⟨files, hfiles, hload, rfl⟩ := exists_listing_of_samplesOf hsightings
        exact ⟨files, fun _ => ⟨hfiles, hload, hsightings⟩⟩
      · exact ⟨[], fun h => absurd h hmodel⟩
    choose files hfiles using hlisting
    refine ⟨files, fun model hmodel => ⟨(hfiles model hmodel).1, (hfiles model hmodel).2.1⟩, ?_⟩
    rw [mapM_eq_ok_map fun model hmodel => (hfiles model hmodel).2.2] at hshown
    cases hshown
    rw [List.flatMap_def]

/-- A directory with two payload files, one of an object and one of two. -/
def ratingsDisk : Disk :=
  ((Disk.startingAt []).put ["rating_1.json"] (.text "\x7b\x7d")).put ["rating_2.json"]
    (.text "[\x7b\x7d,\x7b\x7d]")

/-- A configuration of the directory. Its pattern means the file that is also named. -/
def ratingsConfig : Config where
  project := none
  author := none
  company := none
  language := .rust
  package := none
  outputDirectory := Config.defaultOutput
  models := [⟨"Rating", ["rating_1.json", "rating_*.json"]⟩]
  directory := ⟨"/"⟩

/-- The pattern means both payload files. -/
theorem resolve_ratings : Source.resolve ratingsDisk ⟨"/"⟩ "rating_*.json"
    = .ok [⟨"/rating_1.json"⟩, ⟨"/rating_2.json"⟩] := by
  let glob : Glob :=
    "rating_".toList.map (.character · false) ++ .many :: ".json".toList.map (.character · false)
  have hpattern : Source.isPattern "rating_*.json" = true := by decide +kernel
  have hsplit : Source.split "rating_*.json" = (⟨""⟩, "rating_*.json") := by decide +kernel
  have hparse : Glob.parse "rating_*.json" = some glob := by cbv
  have hkept : ((ratingsDisk.filesBelow ⟨"/"⟩).filter fun names =>
        glob.isMatch (Source.slashed ("/".intercalate names))).map (Path.below ⟨"/"⟩)
      = [⟨"/rating_1.json"⟩, ⟨"/rating_2.json"⟩] := by decide +kernel
  have hsorted : Path.sort [⟨"/rating_1.json"⟩, ⟨"/rating_2.json"⟩]
      = [⟨"/rating_1.json"⟩, ⟨"/rating_2.json"⟩] :=
    List.mergeSort_of_pairwise (by decide +kernel)
  have hmatching : Source.matching ratingsDisk ⟨"/"⟩ glob
      = [⟨"/rating_1.json"⟩, ⟨"/rating_2.json"⟩] := by
    rw [Source.matching, hkept, hsorted]
  have hjoin : (⟨"/"⟩ : Path).join ⟨""⟩ = ⟨"/"⟩ := by decide +kernel
  rw [Source.resolve, hpattern, hsplit]
  simp only [hparse, hjoin, hmatching]
  rfl

/-- Sources that mean the two files, in whatever order, show three objects. -/
theorem samplesOf_ratings {sources : List String} {found : List (List Path)}
    (hfound : sources.mapM (Source.resolve ratingsDisk ⟨"/"⟩) = .ok found)
    (hdistinct : Path.distinct found.flatten = [⟨"/rating_1.json"⟩, ⟨"/rating_2.json"⟩]) :
    samplesOf ratingsDisk ⟨"/"⟩ ⟨"Rating", sources⟩
      = .ok (List.replicate 3 (.object "Rating" [])) := by
  have hfiles := sourceFiles_eq_ok_iff.2 ⟨found, hfound, hdistinct.symm⟩
  have hone : Payload.load ratingsDisk ⟨"/rating_1.json"⟩ = .ok [[]] := by
    have hparse : Json.parse "\x7b\x7d" = .ok (.obj []) := by cbv
    have hread : ratingsDisk.read? ⟨"/rating_1.json"⟩ = some "\x7b\x7d" := by decide
    rw [Payload.load, hread]
    simp only [hparse]
    rfl
  have htwo : Payload.load ratingsDisk ⟨"/rating_2.json"⟩ = .ok [[], []] := by
    have hparse : Json.parse "[\x7b\x7d,\x7b\x7d]" = .ok (.arr [.obj [], .obj []]) := by cbv
    have hread : ratingsDisk.read? ⟨"/rating_2.json"⟩ = some "[\x7b\x7d,\x7b\x7d]" := by
      decide
    rw [Payload.load, hread]
    simp only [hparse]
    rfl
  rw [samplesOf, hfiles]
  show (List.mapM (Payload.load ratingsDisk) [⟨"/rating_1.json"⟩, ⟨"/rating_2.json"⟩]).map _ = _
  rw [List.mapM_cons, hone, List.mapM_cons, htwo]
  rfl

/-- A file that is named and a pattern that means it, too; then the same with the pattern first and
repeated. The sets are equal, and each file is shown once. -/
theorem ofConfig_eq_of_sameSources_ratings :
    let models : List ModelSource :=
      [⟨"Rating", ["rating_*.json", "rating_1.json", "rating_*.json"]⟩]
    let shown := ofSightings (List.replicate 3 (.object "Rating" []))
    List.Forall₂ SameSources ratingsConfig.models models ∧
      ofConfig ratingsDisk ratingsConfig = .ok shown ∧
      ofConfig ratingsDisk { ratingsConfig with models := models } = .ok shown ∧
      ∃ files : List Path,
        IsListing ratingsDisk ⟨"/"⟩ ["rating_1.json", "rating_*.json"] files ∧
        shown = ofSightings (files.flatMap fun file =>
          (loadedObjects ratingsDisk file).map (Sighting.object "Rating")) := by
  intro models shown
  have hfile : Source.resolve ratingsDisk ⟨"/"⟩ "rating_1.json" = .ok [⟨"/rating_1.json"⟩] := by
    decide
  have hone : Path.le ⟨"/rating_1.json"⟩ ⟨"/rating_1.json"⟩ = true := by decide
  have htwo : Path.le ⟨"/rating_2.json"⟩ ⟨"/rating_2.json"⟩ = true := by decide
  have hle : Path.le ⟨"/rating_1.json"⟩ ⟨"/rating_2.json"⟩ = true := by decide
  have hlt : Path.le ⟨"/rating_2.json"⟩ ⟨"/rating_1.json"⟩ = false := by decide
  have hsame : List.Forall₂ SameSources ratingsConfig.models models := by
    refine .cons ⟨rfl, fun source => ?_⟩ .nil
    simp only [List.mem_cons, List.not_mem_nil, or_false]
    tauto
  have hshown : ofConfig ratingsDisk ratingsConfig = .ok shown := by
    have hfound : ["rating_1.json", "rating_*.json"].mapM (Source.resolve ratingsDisk ⟨"/"⟩)
        = .ok [[⟨"/rating_1.json"⟩], [⟨"/rating_1.json"⟩, ⟨"/rating_2.json"⟩]] := by
      simp only [List.mapM_cons, hfile, resolve_ratings]
      rfl
    have hsorted : Path.sort [⟨"/rating_1.json"⟩, ⟨"/rating_1.json"⟩, ⟨"/rating_2.json"⟩]
        = [⟨"/rating_1.json"⟩, ⟨"/rating_1.json"⟩, ⟨"/rating_2.json"⟩] := by
      simp [Path.sort, List.mergeSort, hone, hle]
    rw [ofConfig_eq, ratingsConfig, List.mapM_cons, samplesOf_ratings hfound]
    · rfl
    · exact (congrArg (List.eraseRepsBy Path.same) hsorted).trans (by decide)
  have hshown' : ofConfig ratingsDisk { ratingsConfig with models := models } = .ok shown := by
    have hfound : ["rating_*.json", "rating_1.json", "rating_*.json"].mapM
          (Source.resolve ratingsDisk ⟨"/"⟩)
        = .ok [[⟨"/rating_1.json"⟩, ⟨"/rating_2.json"⟩], [⟨"/rating_1.json"⟩],
            [⟨"/rating_1.json"⟩, ⟨"/rating_2.json"⟩]] := by
      simp only [List.mapM_cons, hfile, resolve_ratings]
      rfl
    have hsorted : Path.sort [⟨"/rating_1.json"⟩, ⟨"/rating_2.json"⟩, ⟨"/rating_1.json"⟩,
          ⟨"/rating_1.json"⟩, ⟨"/rating_2.json"⟩]
        = [⟨"/rating_1.json"⟩, ⟨"/rating_1.json"⟩, ⟨"/rating_1.json"⟩, ⟨"/rating_2.json"⟩,
          ⟨"/rating_2.json"⟩] := by
      simp [Path.sort, List.mergeSort, hone, htwo, hle, hlt]
    rw [ofConfig_eq, ratingsConfig, List.mapM_cons, samplesOf_ratings hfound]
    · rfl
    · exact (congrArg (List.eraseRepsBy Path.same) hsorted).trans (by decide)
  obtain ⟨-, files, hfiles, hset⟩ :=
    ofConfig_eq_of_sameSources ratingsDisk ratingsConfig models hsame hshown hshown'
  refine ⟨hsame, hshown, hshown', files _, (hfiles _ List.mem_cons_self).1, hset.trans ?_⟩
  simp [ratingsConfig]

end ModelSet

end PayloadModels
