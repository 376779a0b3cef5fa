import PayloadModels.Proofs.Schema.TypeNames

/-!
# Properties that were never anything but null

A property without a type is one that was `null` whenever its key occurred, whatever conflicts other
values had, and it is always optional (`Keeps.isOptional`): so no target has to declare a required
property that it has no type for. Beside it, the bounds of a type by what the key occurred with: at
or above the first type that says something, and without a model that none of them mentions
(`fields_ofObservations`).
-/

namespace PayloadModels

open Observation

namespace ObservedModel

variable {model : ObservedModel} {observations : List Observation}

/-- A field has been seen with the types that its key occurred with, of which there is at least
one. -/
theorem Keeps.field_eq (h : model.Keeps observations) {field : ObservedField}
    (hfield : field ∈ model.fields) : typesOf field.key observations ≠ [] ∧
      field.type = (typesOf field.key observations).foldl .mergeOrKeep .unknown ∧
      field.nullable = (typesOf field.key observations).any (· = .unknown) := by
  have hfound := h.nodupKeys.field?_key hfield
  rw [h.field?, ObservedField.ofTypes_eq_some] at hfound
  obtain ⟨hne, heq⟩ := hfound
  exact ⟨hne, congrArg ObservedField.type heq, congrArg ObservedField.nullable heq⟩

/-- A property without a type has been `null`, and so is optional. -/
theorem Keeps.isOptional (h : model.Keeps observations) {propertyName : String → String}
    {property : Property} (hproperty : property ∈ model.properties propertyName)
    (hunknown : property.type = .unknown) : property.isOptional = true := by
  obtain ⟨field, hfield, rfl⟩ := List.mem_map.1 hproperty
  obtain ⟨hne, htype, hnullable⟩ := h.field_eq hfield
  have hnull := PropertyType.foldl_mergeOrKeep_eq_unknown_iff.1 (htype.symm.trans hunknown)
  obtain ⟨type, htypes⟩ := List.exists_mem_of_ne_nil _ hne
  have hany : (typesOf field.key observations).any (· = .unknown) = true :=
    List.any_eq_true.2 ⟨type, htypes, decide_eq_true (hnull type htypes)⟩
  show (field.nullable || _) = true
  rw [hnullable, hany, Bool.true_or]

/-- Whatever a model is fed, in whatever order, its keys are distinct and stand in the order in
which they first occurred, and a property without a type is optional. The type of a key says nothing
exactly when none of the types that the key occurred with does; else it is at or above the first of
them that says something. It mentions no model that none of them mentions. -/
theorem fields_ofObservations (observations : List Observation) :
    (ofObservations observations).keys.Nodup ∧
      (ofObservations observations).keys = (Observation.keys observations).eraseDups ∧
      (∀ (propertyName : String → String),
        ∀ property ∈ (ofObservations observations).properties propertyName,
          property.type = .unknown → property.isOptional = true) ∧
      ∀ field ∈ (ofObservations observations).fields,
        (field.type = .unknown ↔ ∀ type ∈ typesOf field.key observations, type = .unknown) ∧
        (∀ first, (typesOf field.key observations).find? (· ≠ .unknown) = some first →
          first ≤ field.type) ∧
        ∀ mention, field.type.modelName? = some mention →
          ∃ type ∈ typesOf field.key observations, type.modelName? = some mention := by
  have hkeeps := keeps_ofObservations observations
  refine ⟨hkeeps.nodupKeys, hkeeps.keys, fun propertyName property => hkeeps.isOptional,
    fun field hfield => ?_⟩
  obtain ⟨-, htype, -⟩ := hkeeps.field_eq hfield
  rw [htype]
  refine ⟨PropertyType.foldl_mergeOrKeep_eq_unknown_iff,
    fun first => PropertyType.le_foldl_mergeOrKeep_of_find?, fun mention hmention => ?_⟩
  rcases PropertyType.mem_modelName?_foldl hmention with hnothing | htypes
  · cases hnothing
  · exact htypes

/-- A note that is `null` twice, the first time before any iteration, and images that were an empty
array before they were objects and then a text, which is refused. -/
theorem fields_ofObservations_product :
    let observations : List Observation := [.occurrence "note" .unknown, .iteration,
      .occurrence "images" .unknown, .occurrence "note" .unknown, .iteration,
      .occurrence "images" (.array .unknown), .occurrence "images" (.array (.object "Images")),
      .occurrence "images" .string]
    let model := ofObservations observations
    let images : ObservedField := ⟨"images", .array (.object "Images"), 4, true⟩
    model.keys = ["note", "images"] ∧
      (∃ property ∈ model.properties id, property.key = "note" ∧ property.type = .unknown ∧
        property.isOptional = true) ∧
      images ∈ model.fields ∧ .array .unknown ≤ images.type ∧
      ∃ type ∈ typesOf "images" observations, type.modelName? = some "Images" := by
  intro observations model images
  obtain ⟨-, hkeys, hoptional, hfields⟩ := fields_ofObservations observations
  have hnote : ⟨"note", "note", .unknown, true⟩ ∈ model.properties id := by decide
  have himages : images ∈ model.fields := by decide
  obtain ⟨-, hfirst, hmention⟩ := hfields images himages
  exact ⟨hkeys, ⟨_, hnote, rfl, rfl, hoptional id _ hnote rfl⟩, himages,
    hfirst _ (by decide), hmention "Images" rfl⟩

end ObservedModel

end PayloadModels
