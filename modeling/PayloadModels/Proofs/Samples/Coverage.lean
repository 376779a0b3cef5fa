import Mathlib.Data.List.Flatten
import PayloadModels.Proofs.Disk.Listings
import PayloadModels.Proofs.Samples.Names
import PayloadModels.Proofs.Samples.Sources
import PayloadModels.Proofs.Schema.Repetition

/-!
# Sets cover their configurations

Once the models of a project were collected, nothing that its configuration names was left out. Each
root model has sources (`sources_ne_nil_of_validate`), a source means at least one file
(`Source.ne_nil_of_resolve`), and on a tree the path to each of these files leads somewhere
(`Source.exists_locate?_of_resolve`). Of the paths to one file only one is read, but all lead to
what was read (`ModelSet.exists_holds_of_means`): a text whose root holds objects, each of which is
an iteration of the root model (`ModelSet.exists_isCovered_of_ofConfig`).
-/

namespace PayloadModels

open Json

/-! ## Sources -/

namespace Source

variable {disk : Disk} {project path : Path} {source : String} {found : List Path}

/-- A path means itself when it leads to a file, and a pattern means what it matches. -/
theorem resolve_eq_ok (h : resolve disk project source = .ok found) :
    found = [project.join ⟨source⟩] ∧ disk.isFile (project.join ⟨source⟩) ∨
      ∃ base glob, found = matching disk base glob ∧ found ≠ [] := by
  rw [resolve] at h
  split at h
  · dsimp only at h
    split at h
    · next hfile =>
      cases h
      exact .inl ⟨rfl, hfile⟩
    · cases h
  · dsimp only at h
    split at h
    · cases h
    · next glob hglob =>
      split at h
      · cases h
      · next hsome =>
        cases h
        exact .inr ⟨_, glob, rfl, hsome⟩

/-- A source that is resolved means a file. -/
theorem ne_nil_of_resolve (h : resolve disk project source = .ok found) : found ≠ [] := by
  rcases resolve_eq_ok h with ⟨rfl, -⟩ | ⟨base, glob, -, hsome⟩
  · exact List.cons_ne_nil _ []
  · exact hsome

/-- On a tree, what a source means is there. -/
theorem exists_locate?_of_resolve (htree : disk.IsTree)
    (h : resolve disk project source = .ok found) (hpath : path ∈ found) :
    ∃ location, disk.locate? path = some location := by
  rcases resolve_eq_ok h with ⟨rfl, hfile⟩ | ⟨base, glob, rfl, -⟩
  · rw [List.mem_singleton.1 hpath]
    obtain ⟨entry, hentry, -⟩ := Disk.isFile_iff.1 hfile
    obtain ⟨location, hlocation, -⟩ := Option.bind_eq_some_iff.1 hentry
    exact ⟨location, hlocation⟩
  · rw [matching, Path.sort, List.mem_mergeSort, List.mem_map] at hpath
    obtain ⟨names, hnames, rfl⟩ := hpath
    exact htree.exists_locate?_of_mem_filesBelow (List.mem_of_mem_filter hnames)

end Source

/-! ## Objects that are shown -/

/-- Fewer calls show fewer objects of a model, in the same order. -/
theorem objectsOf_sublist (name : String) {shown all : List Sighting} (h : shown.Sublist all) :
    (objectsOf name shown).Sublist (objectsOf name all) :=
  ((h.flatMap Sighting.instances).filter _).map _

/-- An object that is shown belongs to its model, before those inside it. -/
theorem exists_objectsOf_singleton_eq (name : String) (members : Members) :
    ∃ inside, objectsOf name [.object name members] = members :: inside := by
  refine ⟨membersOf name (instances name (objectsOfMembers members)), ?_⟩
  rw [objectsOf, List.flatMap_singleton, Sighting.instances, Sighting.value, filter_isShown_obj]
  exact (membersOf_cons name name members _).trans (if_pos rfl)

/-- Objects that are shown as ones of a model are among its objects. -/
theorem sublist_objectsOf_map_object (name : String) (objects : List Members) :
    objects.Sublist (objectsOf name (objects.map (.object name))) := by
  induction objects with
  | nil => exact List.nil_sublist _
  | cons members objects ih =>
    obtain ⟨inside, hinside⟩ := exists_objectsOf_singleton_eq name members
    have hsplit : (members :: objects).map (Sighting.object name)
        = [.object name members] ++ objects.map (.object name) := rfl
    rw [hsplit, objectsOf_append, hinside]
    exact (ih.trans (List.sublist_append_right inside _)).cons_cons members

namespace ModelSet

variable {disk : Disk} {project path : Path} {sources : List String} {files : List Path}

/-- What a set has of a root model when its sources were read: the model was inferred from some
objects, one for each iteration. Each source means files, and each of these is a payload whose
objects are among them; so are the objects of all the files together, each file taken once. -/
structure IsCovered (disk : Disk) (project : Path) (set : ModelSet) (model : ModelSource)
    (observed : List Members) : Prop where
  get?_eq : set.get? model.name = some (observed.foldl .record ∅)
  iterations_eq : (observed.foldl ObservedModel.record ∅).iterations = observed.length
  observed_ne_nil : observed ≠ []
  resolves : ∀ source ∈ model.sources, ∃ found,
    Source.resolve disk project source = .ok found ∧ found ≠ []
  holds : ∀ path, Means disk project model.sources path → disk.isFile path ∧
    ∃ text value objects, disk.read? path = some text ∧ Json.parse text = .ok value ∧
      Payload.Holds value objects ∧ objects.Sublist observed
  once : ∃ files, IsListing disk project model.sources files ∧
    (files.flatMap (loadedObjects disk)).Sublist observed

/-- Every path that sources mean is that of a payload, whose objects are among those of the files
that were loaded. -/
theorem exists_holds_of_means (htree : disk.IsTree)
    (hlisting : IsListing disk project sources files)
    (hload : ∀ file ∈ files, Payload.load disk file = .ok (loadedObjects disk file))
    (hmeans : Means disk project sources path) :
    ∃ text value objects, disk.read? path = some text ∧ Json.parse text = .ok value ∧
      Payload.Holds value objects ∧ objects.Sublist (files.flatMap (loadedObjects disk)) := by
  -- The path itself may be left out of the listing, for one with the same parts that was loaded.
  obtain ⟨file, hfile, hsame⟩ := hlisting.exists_same path hmeans
  obtain ⟨source, -, found, hresolve, hpath⟩ := hmeans
  obtain ⟨location, hlocation⟩ := Source.exists_locate?_of_resolve htree hresolve hpath
  have hloaded := Payload.load_eq_ok_of_same hsame (hload file hfile) hlocation
  obtain ⟨text, value, htext, hvalue, hholds⟩ := Payload.load_eq_ok_iff.1 hloaded
  have hsublist := (List.singleton_sublist.2 hfile).flatMap (loadedObjects disk)
  rw [List.flatMap_singleton] at hsublist
  exact ⟨text, value, _, htext, hvalue, hholds, hsublist⟩

/-- When a root model was sampled, each of its sources means a file. -/
theorem exists_resolve_of_samplesOf {model : ModelSource} {shown : List Sighting}
    (h : samplesOf disk project model = .ok shown) : ∀ source ∈ model.sources, ∃ found,
      Source.resolve disk project source = .ok found ∧ found ≠ [] := by
  obtain ⟨files, hfiles, -⟩ := exists_of_bind_eq_ok h
  obtain ⟨found, hfound, -⟩ := sourceFiles_eq_ok_iff.1 hfiles
  intro source hsource
  obtain ⟨paths, -, hpaths⟩ := exists_of_mem_of_mapM hfound hsource
  exact ⟨paths, hpaths, Source.ne_nil_of_resolve hpaths⟩

/-- A root model is covered when its samples are among all that is shown. -/
theorem exists_isCovered_of_samplesOf (htree : disk.IsTree) {model : ModelSource}
    (hsources : model.sources ≠ []) {shown all : List Sighting}
    (hshown : samplesOf disk project model = .ok shown) (hall : shown.Sublist all) :
    ∃ observed, IsCovered disk project (ofSightings all) model observed := by
  obtain ⟨files, hlisting, hload, rfl⟩ := exists_listing_of_samplesOf hshown
  rw [← List.map_flatMap] at hall
  have honce : (files.flatMap (loadedObjects disk)).Sublist (objectsOf model.name all) :=
    (sublist_objectsOf_map_object model.name _).trans (objectsOf_sublist model.name hall)
  have hresolves := exists_resolve_of_samplesOf hshown
  have hholds : ∀ path, Means disk project model.sources path → disk.isFile path ∧
      ∃ text value objects, disk.read? path = some text ∧ Json.parse text = .ok value ∧
        Payload.Holds value objects ∧ objects.Sublist (objectsOf model.name all) := by
    intro path hmeans
    obtain ⟨text, value, objects, htext, hvalue, hobjects, hsublist⟩ :=
      exists_holds_of_means htree hlisting hload hmeans
    exact ⟨Disk.isFile_of_read? htext, text, value, objects, htext, hvalue, hobjects,
      hsublist.trans honce⟩
  have hne : objectsOf model.name all ≠ [] := by
    -- The model has a source, the source a file, and the file an object.
    obtain ⟨source, hsource⟩ := List.exists_mem_of_ne_nil _ hsources
    obtain ⟨found, hfound, hsome⟩ := hresolves source hsource
    obtain ⟨path, hpath⟩ := List.exists_mem_of_ne_nil _ hsome
    obtain ⟨-, text, value, objects, -, -, hobjects, hsublist⟩ :=
      hholds path ⟨source, hsource, found, hfound, hpath⟩
    exact fun hnil => hobjects.ne_nil (List.sublist_nil.1 (hnil ▸ hsublist))
  refine ⟨objectsOf model.name all, ?_, ?_, hne, hresolves, hholds, files, hlisting, honce⟩
  · rw [get?_ofSightings, if_neg hne]
  · rw [ObservedModel.iterations_foldl_record]
    exact Nat.zero_add _

/-- Every root model of a valid configuration is covered by the set that was collected. -/
theorem exists_isCovered_of_ofConfig {disk : Disk} (htree : disk.IsTree) {config : Config}
    (hvalid : config.validate = .ok ()) {set : ModelSet} (h : ofConfig disk config = .ok set) :
    ∀ model ∈ config.models, ∃ observed, IsCovered disk config.directory set model observed := by
  intro model hmodel
  rw [ofConfig_eq, map_eq_ok_iff] at h
  obtain ⟨shown, hshown, rfl⟩ := h
  obtain ⟨samples, hsamples, hofModel⟩ := exists_of_mem_of_mapM hshown hmodel
  have hsources := sources_ne_nil_of_validate hvalid model hmodel
  exact exists_isCovered_of_samplesOf htree hsources hofModel (List.sublist_flatten_of_mem hsamples)

/-- Everything on the disk with the two payload files lies in a directory. -/
theorem isTree_ratingsDisk : ratingsDisk.IsTree := by
  have hname : ∀ name ∈ ["rating_1.json", "rating_2.json"],
      Path.IsPlainName name ∧ Disk.isName name := by
    have hplain : ∀ name ∈ ["rating_1.json", "rating_2.json"], '/' ∉ name.toList ∧
        Path.Part.ofPiece? name = some (.name name) ∧ Disk.isName name := by decide
    intro name hname
    obtain ⟨hslash, hpart, hshort⟩ := hplain name hname
    exact ⟨⟨hslash, hpart⟩, hshort⟩
  obtain ⟨hone, hshort⟩ := hname "rating_1.json" (by simp)
  obtain ⟨htwo, hshort'⟩ := hname "rating_2.json" (by simp)
  have hfirst : ((Disk.startingAt []).put ["rating_1.json"] (.text "\x7b\x7d")).IsTree :=
    Disk.isTree_startingAt_nil.put (Disk.hasDirectory_nil _) hone hshort (.inr (by decide))
  exact hfirst.put (Disk.hasDirectory_nil _) htwo hshort' (.inr (by decide))

/-- A pattern that matches an object and an array of two objects. -/
theorem exists_isCovered_of_ofConfig_ratings :
    let model : ModelSource := ⟨"Rating", ["rating_*.json"]⟩
    let config := { ratingsConfig with models := [model] }
    let set := ofSightings (List.replicate 3 (.object "Rating" []))
    ratingsDisk.IsTree ∧ config.validate = .ok () ∧ ofConfig ratingsDisk config = .ok set ∧
      ∃ observed, IsCovered ratingsDisk ⟨"/"⟩ set model observed := by
  intro model config set
  have hvalid : config.validate = .ok () := by decide
  have hfound : model.sources.mapM (Source.resolve ratingsDisk ⟨"/"⟩)
      = .ok [[⟨"/rating_1.json"⟩, ⟨"/rating_2.json"⟩]] := by
    simp only [model, List.mapM_cons, resolve_ratings]
    rfl
  have hsorted : Path.sort [⟨"/rating_1.json"⟩, ⟨"/rating_2.json"⟩]
      = [⟨"/rating_1.json"⟩, ⟨"/rating_2.json"⟩] :=
    List.mergeSort_of_pairwise (by decide)
  have hset : ofConfig ratingsDisk config = .ok set := by
    have hsamples := samplesOf_ratings hfound
      ((congrArg (List.eraseRepsBy Path.same) hsorted).trans (by decide))
    have hmodels : config.models.mapM (samplesOf ratingsDisk config.directory)
        = .ok [List.replicate 3 (.object "Rating" [])] := by
      show List.mapM (samplesOf ratingsDisk ⟨"/"⟩) [⟨"Rating", model.sources⟩] = _
      rw [List.mapM_cons, hsamples]
      rfl
    rw [ofConfig_eq, hmodels]
    rfl
  exact ⟨isTree_ratingsDisk, hvalid, hset,
    exists_isCovered_of_ofConfig isTree_ratingsDisk hvalid hset model (List.mem_singleton_self _)⟩

end ModelSet

end PayloadModels
