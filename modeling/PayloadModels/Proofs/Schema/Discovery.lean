import PayloadModels.Proofs.Schema.ModelIndex
import PayloadModels.Proofs.Schema.Observations

/-!
# The order of discovery

Names of models and keys of fields stand in the order in which they were first seen: recording
objects lists their models, and the fields of a model list the keys of its objects, each without
repetition (`names_recordAll`, `keys_foldl_record`). With the index, this makes a set of models a
plain list that can be written down at once (`models_ofSightings`): under each name that was seen,
the model that recording the objects of the name gives. In the same way the properties of a model
are listed by their keys (`properties_eq_map`).
-/

namespace PayloadModels

open Json

/-! ## The properties of a model -/

namespace ObservedModel

/-- A field is the one that is found under its key. -/
theorem NodupKeys.field?_key {model : ObservedModel} (h : model.NodupKeys) {field : ObservedField}
    (hfield : field ∈ model.fields) : model.field? field.key = some field := by
  have hmem : field ∈ model.fields.filter (·.key = field.key) := by simpa using hfield
  rw [h.filter_fields] at hmem
  simpa using hmem

/-- The properties are told by the keys, and by the type and optionality that are found for
each. -/
theorem properties_eq_map {model : ObservedModel} (h : model.NodupKeys)
    (propertyName : String → String) : model.properties propertyName = model.keys.map fun key =>
      { key := key
        name := propertyName key
        type := (model.type? key).getD .unknown
        isOptional := (model.isOptional? key).getD false } := by
  rw [properties, keys, List.map_map]
  refine List.map_congr_left fun field hfield => ?_
  simp [type?, isOptional?, h.field?_key hfield]

/-- Models with the same keys in the same order, and the same type and optionality for each, have
the same properties. -/
theorem properties_congr {model other : ObservedModel} (h : model.NodupKeys)
    (hother : other.NodupKeys) (hkeys : model.keys = other.keys)
    (htype : ∀ key, model.type? key = other.type? key)
    (hoptional : ∀ key, model.isOptional? key = other.isOptional? key)
    (propertyName : String → String) :
    model.properties propertyName = other.properties propertyName := by
  rw [properties_eq_map h, properties_eq_map hother, hkeys]
  simp only [htype, hoptional]

/-- The type of a key is the merge of the types that the objects show for it, if they show any. -/
theorem type?_foldl_record (key : String) (objects : List Members) :
    (objects.foldl record ∅).type? key = if typesUnder key objects = [] then none
      else some ((typesUnder key objects).foldl .mergeOrKeep .unknown) := by
  rw [type?, field?_foldl_record, ObservedField.ofTypes]
  split <;> rfl

end ObservedModel

/-! ## The models of a set -/

namespace ModelSet

/-- A change to a model puts its name at the end, unless it is there. -/
theorem names_update {set : ModelSet} (hset : set.Consistent) (name : String)
    (change : ObservedModel → ObservedModel) : (set.update name change).names
      = if name ∈ set.names then set.names else set.names ++ [name] := by
  cases h : set.index[name]? with
  | some i =>
    have hmem : name ∈ set.names :=
      List.mem_of_getElem? ((hset.index_eq_some_iff name i).1 h)
    rw [names_update_of_some h, if_pos hmem]
  | none => rw [names_update_of_none h, if_neg (hset.not_mem_names h)]

/-- Recording objects adds the names that are new, in the order in which they are first seen. -/
theorem names_recordAll_of_names {set : ModelSet} (hset : set.Consistent) {seen : List String}
    (h : set.names = seen.eraseDups) (instances : List (String × Members)) :
    (set.recordAll instances).names = (seen ++ instances.map (·.1)).eraseDups := by
  induction instances generalizing set seen with
  | nil =>
    rw [List.map_nil, List.append_nil]
    exact h
  | cons head instances ih =>
    obtain ⟨name, members⟩ := head
    have hstep : (set.record name members).names = (seen ++ [name]).eraseDups := by
      rw [record, names_update hset, eraseDups_concat, h]
      simp only [List.mem_eraseDups]
    have hrest := ih hset.update hstep
    rwa [List.append_assoc, List.singleton_append] at hrest

/-- The names of the models that are seen when some calls are made, with repetition. -/
def namesSeen (sightings : List Sighting) : List String :=
  (sightings.flatMap Sighting.instances).map (·.1)

/-- More calls see more names, behind those of the first ones. -/
theorem namesSeen_append (front back : List Sighting) :
    namesSeen (front ++ back) = namesSeen front ++ namesSeen back := by
  simp [namesSeen]

/-- The names of a set are those of the objects that were shown to it, in the order in which they
were first seen. -/
theorem names_ofSightings (sightings : List Sighting) :
    (ofSightings sightings).names = (namesSeen sightings).eraseDups := by
  have hempty : (∅ : ModelSet).names = ([] : List String).eraseDups := rfl
  rw [ofSightings_eq_recordAll]
  exact names_recordAll_of_names consistent_empty hempty _

/-- Whatever calls are made, the index of the set is right. -/
theorem consistent_ofSightings (sightings : List Sighting) :
    (ofSightings sightings).Consistent := by
  rw [ofSightings_eq_recordAll]
  exact consistent_empty.recordAll _

/-- The models are those that are found under the names. -/
theorem Consistent.models_eq_map {set : ModelSet} (hset : set.Consistent) :
    set.models = set.names.map fun name => (name, (set.get? name).getD ∅) := by
  rw [names, List.map_map]
  refine (List.map_id _).symm.trans (List.map_congr_left fun entry hentry => ?_)
  have hfound : set.get? entry.1 = some entry.2 := hset.get?_eq_some_iff.2 hentry
  simp [hfound]

/-- What is found under a name, or nothing at all, is what recording the objects of the name
gives. -/
theorem getD_get?_ofSightings (sightings : List Sighting) (name : String) :
    ((ofSightings sightings).get? name).getD ∅ = (objectsOf name sightings).foldl .record ∅ := by
  rw [get?_ofSightings]
  split
  · next hnil => rw [hnil]; rfl
  · rfl

/-- A set has, for each name that was seen, what recording the objects of the name gives. -/
theorem models_ofSightings (sightings : List Sighting) :
    (ofSightings sightings).models = (namesSeen sightings).eraseDups.map fun name =>
      (name, (objectsOf name sightings).foldl .record ∅) := by
  rw [(consistent_ofSightings sightings).models_eq_map, names_ofSightings]
  simp only [getD_get?_ofSightings]

end ModelSet

end PayloadModels
