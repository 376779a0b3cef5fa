import PayloadModels.Proofs.Config.Validation
import PayloadModels.Proofs.Naming.Characters
import PayloadModels.Proofs.Samples.Loading
import PayloadModels.Proofs.Schema.Discovery

/-!
# The names of models

A model is named either by the configuration or by a key of a payload (`mem_names_ofSightings`).
Both kinds of names have of ASCII only letters, digits and underscores when the configuration is
valid (`isNameText_of_mem_names_ofConfig`).
-/

namespace PayloadModels

open Json Naming

/-- The model that an object belongs to is the outermost one, or is named by a key. -/
theorem Json.modelAt_eq (root : String) (way : List Step) :
    modelAt root way = root ∨ ∃ key, modelAt root way = upperCamel key := by
  induction way generalizing root with
  | nil => exact .inl rfl
  | cons step way ih =>
    cases step with
    | item => exact ih root
    | member key =>
      rcases ih (upperCamel key) with h | h
      · exact .inr ⟨key, h⟩
      · exact .inr h

/-- A name of a valid configuration has of ASCII only what names may have. -/
theorem isNameText_of_isModelName {name : String} (h : isModelName name) : IsNameText name := by
  unfold isModelName at h
  split at h
  · cases h
  · next c cs hname =>
    rw [Bool.and_eq_true, List.all_eq_true] at h
    intro d hd
    rw [hname, List.mem_cons] at hd
    refine isNameChar_of_isAlphanum ?_
    rcases hd with rfl | hd
    · exact .inl (by simp [Char.isAlphanum, h.1])
    · simpa using h.2 d hd

/-- The root models of a valid configuration have names in the form of identifiers. -/
theorem isModelName_of_validate {config : Config} (h : config.validate = .ok ()) :
    ∀ model ∈ config.models, isModelName model.name :=
  fun model hmodel => isModelName_iff.2 ((Config.validate_eq_ok_iff.1 h).2.1 model hmodel)

/-- The root models of a valid configuration have sources. -/
theorem sources_ne_nil_of_validate {config : Config} (h : config.validate = .ok ()) :
    ∀ model ∈ config.models, model.sources ≠ [] :=
  (Config.validate_eq_ok_iff.1 h).2.2.2

namespace ModelSet

/-- A model of a set was handed in by a call or is named by a key. -/
theorem mem_names_ofSightings {sightings : List Sighting} {name : String}
    (h : name ∈ (ofSightings sightings).names) :
    (∃ sighting ∈ sightings, name = sighting.model) ∨ ∃ key, name = upperCamel key := by
  rw [names_ofSightings, List.mem_eraseDups, namesSeen, List.mem_map] at h
  obtain ⟨instance_, hinstance, rfl⟩ := h
  obtain ⟨sighting, hsighting, hinstance⟩ := List.mem_flatMap.1 hinstance
  obtain ⟨node, -, rfl⟩ := List.mem_map.1 hinstance
  rcases modelAt_eq sighting.model node.way with hmodel | hmodel
  · exact .inl ⟨sighting, hsighting, hmodel⟩
  · exact .inr hmodel

/-- The names of models have of ASCII only letters, digits and underscores when those that were
handed in are names of root models. -/
theorem isNameText_of_mem_names {sightings : List Sighting}
    (h : ∀ sighting ∈ sightings, isModelName sighting.model) :
    ∀ name ∈ (ofSightings sightings).names, IsNameText name := by
  intro name hname
  rcases mem_names_ofSightings hname with ⟨sighting, hsighting, rfl⟩ | ⟨key, rfl⟩
  · exact isNameText_of_isModelName (h sighting hsighting)
  · exact isNameText_upperCamel key

/-- What the samples of a root model show belongs to the root model. -/
theorem model_of_mem_samplesOf {disk : Disk} {project : Path} {model : ModelSource}
    {shown : List Sighting} (h : samplesOf disk project model = .ok shown) :
    ∀ sighting ∈ shown, sighting.model = model.name := by
  obtain ⟨files, -, hshown⟩ := exists_of_bind_eq_ok h
  obtain ⟨loaded, -, rfl⟩ := map_eq_ok_iff.1 hshown
  rw [List.forall_mem_map]
  exact fun members _ => rfl

/-- The models of a valid configuration and of its payloads have of ASCII only letters, digits and
underscores in their names. -/
theorem isNameText_of_mem_names_ofConfig {disk : Disk} {config : Config} {set : ModelSet}
    (hvalid : config.validate = .ok ()) (h : ofConfig disk config = .ok set) :
    ∀ name ∈ set.names, IsNameText name := by
  rw [ofConfig_eq, map_eq_ok_iff] at h
  obtain ⟨shown, hshown, rfl⟩ := h
  refine isNameText_of_mem_names fun sighting hsighting => ?_
  obtain ⟨samples, hsamples, hsighting⟩ := List.mem_flatten.1 hsighting
  obtain ⟨model, hmodel, hsamples⟩ := exists_of_mem_result_of_mapM hshown hsamples
  rw [model_of_mem_samplesOf hsamples sighting hsighting]
  exact isModelName_of_validate hvalid model hmodel

/-- The index of a set that was inferred from a configuration is right. -/
theorem consistent_of_ofConfig {disk : Disk} {config : Config} {set : ModelSet}
    (h : ofConfig disk config = .ok set) : set.Consistent := by
  rw [ofConfig_eq, map_eq_ok_iff] at h
  obtain ⟨shown, -, rfl⟩ := h
  exact consistent_ofSightings _

end ModelSet

end PayloadModels
