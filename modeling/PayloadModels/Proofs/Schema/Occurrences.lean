import Mathlib.Algebra.GroupWithZero.Nat
import Mathlib.Data.List.Basic
import PayloadModels.Proofs.Json.Ways
import PayloadModels.Proofs.Schema.ModelIndex
import PayloadModels.Proofs.Schema.Observations

/-!
# What the counts of a model mean

A set of models keeps running counts, and a model may be fed from several parents or from inside
itself. The counts mean the same all along: the iterations of a model are the objects that belong to
it, and a key is optional when one of these objects lacks it or holds `null` for it
(`iterations_and_isOptional?_ofSightings`). These objects are distinct places in what was shown, so
that the iterations count ways (`iterations_eq_sum_ways`). An object inside an array that is an item
of the outermost array is the one exception (`ObjectNode.isShown`): it belongs to no model, although
keys may lead to it.
-/

namespace PayloadModels

open Json

/-- Only `null` shows no type. -/
theorem inferType_eq_unknown {key : String} {value : Json} :
    inferType key value = .unknown ↔ value = .null := by
  cases value with
  | num value => cases value <;> simp [inferType]
  | _ => simp [inferType]

namespace ObservedModel

/-- Objects with distinct keys show for a key the types of what they have for it. -/
theorem typesUnder_eq_map {key : String} {objects : List Members}
    (h : ∀ members ∈ objects, (members.map (·.1)).Nodup) :
    typesUnder key objects = (objects.filterMap (·.get? key)).map (inferType key) := by
  rw [typesUnder, List.filterMap_eq_flatMap_toList]
  congr 1
  exact List.flatMap_congr fun members hmembers => Members.under_eq_toList key (h members hmembers)

variable {key : String} {objects : List Members}

/-- A key has no field when no object has the key. -/
theorem isOptional?_foldl_record_eq_none (h : ∀ members ∈ objects, (members.map (·.1)).Nodup) :
    (objects.foldl record ∅).isOptional? key = none
      ↔ ∀ members ∈ objects, members.get? key = none := by
  rw [isOptional?, Option.map_eq_none_iff, field?_foldl_record, typesUnder_eq_map h,
    ObservedField.ofTypes_eq_none, List.map_eq_nil_iff, List.filterMap_eq_nil_iff]

/-- The optional keys are those that some object lacks or holds `null` for. -/
theorem isOptional?_foldl_record_eq_some (h : ∀ members ∈ objects, (members.map (·.1)).Nodup)
    {optional : Bool} (hoptional : (objects.foldl record ∅).isOptional? key = some optional) :
    optional = true
      ↔ ∃ members ∈ objects, members.get? key = none ∨ members.get? key = some .null := by
  obtain ⟨field, hfield, rfl⟩ := Option.map_eq_some_iff.1 hoptional
  rw [field?_foldl_record, typesUnder_eq_map h, ObservedField.ofTypes_eq_some] at hfield
  obtain ⟨-, rfl⟩ := hfield
  have hcount : (objects.foldl record ∅).iterations = objects.length := by
    rw [iterations_foldl_record]
    exact Nat.zero_add _
  have hnull : ((objects.filterMap (·.get? key)).map (inferType key)).any (· = .unknown) = true
      ↔ ∃ members ∈ objects, members.get? key = some .null := by
    simp only [List.any_map, List.any_eq_true, List.mem_filterMap, Function.comp_apply,
      inferType_eq_unknown, decide_eq_true_eq]
    constructor
    · rintro ⟨value, ⟨members, hmembers, hkey⟩, rfl⟩
      exact ⟨members, hmembers, hkey⟩
    · rintro ⟨members, hmembers, hkey⟩
      exact ⟨.null, ⟨members, hmembers, hkey⟩, rfl⟩
  rw [fieldIsOptional, Bool.or_eq_true, decide_eq_true_eq, hcount, hnull, List.length_map,
    List.length_filterMap_lt_length_iff_exists]
  constructor
  · rintro (⟨members, hmembers, hkey⟩ | ⟨members, hmembers, hkey⟩)
    · exact ⟨members, hmembers, .inr hkey⟩
    · exact ⟨members, hmembers, .inl hkey⟩
  · rintro ⟨members, hmembers, hkey | hkey⟩
    · exact .inr ⟨members, hmembers, hkey⟩
    · exact .inl ⟨members, hmembers, hkey⟩

end ObservedModel

/-! ## The objects of a model -/

/-- The objects of a model are those that are shown and whose ways name the model. -/
theorem mem_objectsOf {model : String} {sightings : List Sighting} {members : Members} :
    members ∈ objectsOf model sightings ↔ ∃ sighting ∈ sightings,
      ∃ node ∈ sighting.value.objects, node.isShown ∧
        modelAt sighting.model node.way = model ∧ node.members = members := by
  simp [objectsOf, membersOf, Sighting.instances, instances, and_assoc]

/-- The objects of a model have distinct keys when all that is shown has. -/
theorem nodup_keys_of_mem_objectsOf {model : String} {sightings : List Sighting}
    (h : ∀ sighting ∈ sightings, sighting.value.DistinctKeys) {members : Members}
    (hmembers : members ∈ objectsOf model sightings) : (members.map (·.1)).Nodup := by
  obtain ⟨sighting, hsighting, node, hnode, -, -, rfl⟩ := mem_objectsOf.1 hmembers
  exact (h sighting hsighting).nodup hnode

namespace ModelSet

/-- The iterations of a model are its objects; a name without a model has none. -/
theorem iterations_get?_ofSightings (sightings : List Sighting) (model : String) :
    ((ofSightings sightings).get? model).elim 0 (·.iterations)
      = (objectsOf model sightings).length := by
  rw [get?_ofSightings]
  split
  · next hnil => simp [hnil]
  · next hne =>
    rw [Option.elim_some, ObservedModel.iterations_foldl_record]
    exact Nat.zero_add _

/-- After any calls on a set that begins empty, the iterations of a model are the objects that
belong to it, a key is known when one of these objects has it, and it is optional when one of them
lacks it or holds `null` for it. -/
theorem iterations_and_isOptional?_ofSightings (sightings : List Sighting)
    (h : ∀ sighting ∈ sightings, sighting.value.DistinctKeys) (model : String) :
    ((ofSightings sightings).get? model).elim 0 (·.iterations)
        = (objectsOf model sightings).length ∧
      ∀ key,
        (((ofSightings sightings).get? model).bind (·.isOptional? key) = none
          ↔ ∀ members ∈ objectsOf model sightings, members.get? key = none) ∧
        ∀ optional, ((ofSightings sightings).get? model).bind (·.isOptional? key) = some optional →
          (optional = true ↔ ∃ members ∈ objectsOf model sightings,
            members.get? key = none ∨ members.get? key = some .null) := by
  have hnodup : ∀ members ∈ objectsOf model sightings, (members.map (·.1)).Nodup :=
    fun members => nodup_keys_of_mem_objectsOf h
  refine ⟨iterations_get?_ofSightings sightings model, fun key => ?_⟩
  rw [get?_ofSightings]
  split
  · next hnil => simp [hnil]
  · next hne =>
    rw [Option.bind_some]
    exact ⟨ObservedModel.isOptional?_foldl_record_eq_none hnodup, fun optional =>
      ObservedModel.isOptional?_foldl_record_eq_some hnodup⟩

/-- Two parents feed one model, one of them from an array: the model has both objects, and the key
that one of them lacks is optional. -/
theorem isOptional?_two_parents :
    let sightings : List Sighting :=
      [.payload "Shop" (.obj [("owner", .obj [("name", .str "Ada")])]),
        .object "Order" [("owner", .arr [.obj [("name", .null), ("age", .num (.int 4))]])]]
    (∀ sighting ∈ sightings, sighting.value.DistinctKeys) ∧
      ((ofSightings sightings).get? "Owner").elim 0 (·.iterations) = 2 ∧
      ((ofSightings sightings).get? "Owner").bind (·.isOptional? "age") = some true := by
  intro sightings
  have hkeys : ∀ sighting ∈ sightings, sighting.value.DistinctKeys := by
    simp [sightings, Sighting.value]
  have hobjects : objectsOf "Owner" sightings
      = [[("name", .str "Ada")], [("name", .null), ("age", .num (.int 4))]] := by rfl
  obtain ⟨hiterations, hoptional⟩ := iterations_and_isOptional?_ofSightings sightings hkeys "Owner"
  obtain ⟨hnone, hsome⟩ := hoptional "age"
  rw [hobjects] at hiterations hnone hsome
  refine ⟨hkeys, hiterations, ?_⟩
  cases hfound : ((ofSightings sightings).get? "Owner").bind (·.isOptional? "age") with
  | none =>
    have habsent := hnone.1 hfound [("name", .null), ("age", .num (.int 4))] (by simp)
    cases habsent
  | some optional =>
    have htrue := hsome optional hfound
    rw [htrue.2 ⟨[("name", .str "Ada")], by simp, .inl rfl⟩]

end ModelSet

/-! ## The places of a model's objects -/

/-- The ways in a payload that lead to the objects of a model. -/
def Sighting.ways (sighting : Sighting) (model : String) : List (List Step) :=
  (sighting.value.objects.map (·.way)).filter fun way =>
    !isPassedOver way && modelAt sighting.model way = model

namespace Sighting

variable {sighting : Sighting} {model : String}

/-- The ways to a model's objects are those that can be followed to an object, are not passed over
and name the model. -/
theorem mem_ways_iff (h : sighting.value.DistinctKeys) {way : List Step} :
    way ∈ sighting.ways model ↔ (∃ members, sighting.value.follow way = some (.obj members)) ∧
      isPassedOver way = false ∧ modelAt sighting.model way = model := by
  have hobject : (∃ node ∈ sighting.value.objects, node.way = way)
      ↔ ∃ members, sighting.value.follow way = some (.obj members) := by
    constructor
    · rintro ⟨node, hnode, rfl⟩
      exact ⟨node.members, (mem_objects_iff h).1 hnode⟩
    · rintro ⟨members, hfollow⟩
      exact ⟨⟨way, members⟩, (mem_objects_iff h).2 hfollow, rfl⟩
  rw [ways, List.mem_filter, List.mem_map, hobject]
  simp

/-- No way is listed twice. -/
theorem nodup_ways (h : sighting.value.DistinctKeys) (model : String) :
    (sighting.ways model).Nodup :=
  (Json.nodup_ways h).filter _

/-- A payload shows as many objects of a model as ways lead to such objects. -/
theorem length_membersOf_instances (sighting : Sighting) (model : String) :
    (membersOf model sighting.instances).length = (sighting.ways model).length := by
  rw [membersOf, instances, Json.instances, ways, List.length_map, List.filter_map,
    List.filter_map, List.length_map, List.length_map, List.filter_filter]
  congr 2
  funext node
  exact Bool.and_comm _ _

end Sighting

namespace ModelSet

/-- The iterations of a model are the places of its objects: each payload adds as many as it has
ways that can be followed to an object, are not passed over and name the model, and no way counts
twice. -/
theorem iterations_eq_sum_ways (sightings : List Sighting)
    (h : ∀ sighting ∈ sightings, sighting.value.DistinctKeys) (model : String) :
    ((ofSightings sightings).get? model).elim 0 (·.iterations)
        = (sightings.map fun sighting => (sighting.ways model).length).sum ∧
      ∀ sighting ∈ sightings, (sighting.ways model).Nodup ∧ ∀ way, way ∈ sighting.ways model
        ↔ (∃ members, sighting.value.follow way = some (.obj members)) ∧
          isPassedOver way = false ∧ modelAt sighting.model way = model := by
  refine ⟨?_, fun sighting hsighting => ⟨Sighting.nodup_ways (h sighting hsighting) model,
    fun way => Sighting.mem_ways_iff (h sighting hsighting)⟩⟩
  have hsplit : objectsOf model sightings
      = sightings.flatMap fun sighting => membersOf model sighting.instances := by
    simp only [objectsOf, membersOf, List.filter_flatMap, List.map_flatMap]
  rw [iterations_get?_ofSightings, hsplit, List.length_flatMap]
  simp only [Sighting.length_membersOf_instances]

end ModelSet

/-! ## Objects that no model has -/

/-- Whether a step goes to the value of a key. -/
def Json.Step.isMember : Step → Bool
  | .member _ => true
  | .item _ => false

/-- The model that a way alone names for the object at its end: the one of the last key on it, or
`root` for an object that stands alone or is itself an item of the outermost array. -/
def Json.namedModel? (root : String) (way : List Step) : Option String :=
  if way.length ≤ 1 ∨ way.any Step.isMember then some (modelAt root way) else none

namespace ModelSet

/-- The ways alone do not tell the iterations: an item of the outermost array that is itself an
array is passed over, with the objects that keys lead to inside it. -/
theorem not_iterations_eq_length_namedModel? :
    ¬ ∀ (sightings : List Sighting), (∀ sighting ∈ sightings, sighting.value.DistinctKeys) →
      ∀ model, ((ofSightings sightings).get? model).elim 0 (·.iterations)
        = (sightings.flatMap fun sighting => sighting.value.objects.filter fun node =>
            namedModel? sighting.model node.way = some model).length := by
  intro h
  have hcount := h [.payload "M" (.arr [.obj [("a", .obj [])], .arr [.obj [("a", .obj [])]]])]
    (by simp [Sighting.value]) "A"
  rw [iterations_get?_ofSightings] at hcount
  revert hcount
  decide

end ModelSet

end PayloadModels
