import PayloadModels.Proofs.Schema.Occurrences
import PayloadModels.Proofs.Schema.TypeNames

/-!
# References between models

A set of models is closed: a model that the type of a property mentions has been discovered
(`ModelSet.mem_names_of_mem_modelName?`). Types and models are found by different recursions over a
payload. A type may keep only what the first elements of an array show, while the objects of all
elements are recorded; but a type mentions a model only when there is an object below the key,
behind arrays alone (`Json.exists_mem_objects_of_mem_modelName?`), and this object belongs to the
model that the key names.
-/

namespace PayloadModels

open Json Naming

namespace Json

/-! ## Objects inside objects -/

/-- An object inside another one, as it is seen from where the outer one is seen. -/
def ObjectNode.inside (outer inner : ObjectNode) : ObjectNode :=
  { inner with way := outer.way ++ inner.way }

mutual

/-- What is inside the objects of a value is inside the value. -/
theorem inside_mem_objects {outer inner : ObjectNode} :
    ∀ {value : Json}, outer ∈ value.objects → inner ∈ objectsOfMembers outer.members →
      outer.inside inner ∈ value.objects
  | .obj members, houter, hinner => by
    rcases List.mem_cons.1 houter with rfl | houter
    · exact List.mem_cons_of_mem _ hinner
    · exact List.mem_cons_of_mem _ (inside_mem_objectsOfMembers houter hinner)
  | .arr _, houter, hinner => inside_mem_objectsOfItems houter hinner
  | .null, houter, _ | .bool _, houter, _ | .num _, houter, _ | .str _, houter, _ => by
    cases houter

/-- An object in an object of some items is one in the items. -/
theorem inside_mem_objectsOfItems {outer inner : ObjectNode} :
    ∀ {index : Nat} {items : List Json}, outer ∈ objectsOfItems index items →
      inner ∈ objectsOfMembers outer.members → outer.inside inner ∈ objectsOfItems index items
  | _, [], houter, _ => by cases houter
  | _, _ :: _, houter, hinner => by
    rw [objectsOfItems, List.mem_append] at houter ⊢
    rcases houter with houter | houter
    · obtain ⟨node, hnode, rfl⟩ := List.mem_map.1 houter
      exact .inl (List.mem_map_of_mem (inside_mem_objects hnode hinner))
    · exact .inr (inside_mem_objectsOfItems houter hinner)

/-- An object in an object of some members is one in the members. -/
theorem inside_mem_objectsOfMembers {outer inner : ObjectNode} :
    ∀ {members : List (String × Json)}, outer ∈ objectsOfMembers members →
      inner ∈ objectsOfMembers outer.members → outer.inside inner ∈ objectsOfMembers members
  | [], houter, _ => by cases houter
  | (_, _) :: _, houter, hinner => by
    rw [objectsOfMembers, List.mem_append] at houter ⊢
    rcases houter with houter | houter
    · obtain ⟨node, hnode, rfl⟩ := List.mem_map.1 houter
      exact .inl (List.mem_map_of_mem (inside_mem_objects hnode hinner))
    · exact .inr (inside_mem_objectsOfMembers houter hinner)

end

/-- A way is followed one part after the other. -/
theorem modelAt_append (root : String) (front back : List Step) :
    modelAt root (front ++ back) = modelAt (modelAt root front) back := by
  induction front generalizing root with
  | nil => rfl
  | cons step front ih => cases step <;> exact ih _

/-- What is under a key of an object that is shown is shown, too. -/
theorem isShown_inside {outer : ObjectNode} (h : outer.isShown) (key : String) (node : ObjectNode) :
    (outer.inside (node.within (.member key))).isShown := by
  obtain ⟨way, members⟩ := outer
  match way with
  | [] | [.item _] | .member _ :: _ | .item _ :: .member _ :: _ => rfl
  | .item _ :: .item _ :: _ => cases h

/-! ## Objects behind the mention of a model -/

mutual

/-- A value whose type mentions a model holds an object that only arrays surround. -/
theorem exists_mem_objects_of_mem_modelName? {key mention : String} :
    ∀ {value : Json}, mention ∈ (inferType key value).modelName? →
      ∃ node ∈ value.objects, ∀ root, modelAt root node.way = root
  | .obj members, _ => ⟨⟨[], members⟩, List.mem_cons_self, fun _ => rfl⟩
  | .arr _, h =>
    (exists_mem_objectsOfItems_of_mem_modelName? 0 h).resolve_left (by intro h; cases h)
  | .null, h | .bool _, h | .num (.int _), h | .num (.float _), h | .str _, h => by cases h

/-- A model that the type of elements mentions is that of an object in the items, if it was not
mentioned before. -/
theorem exists_mem_objectsOfItems_of_mem_modelName? {key mention : String} :
    ∀ {items : List Json} {soFar : PropertyType} (index : Nat),
      mention ∈ (inferElement key soFar items).modelName? →
        mention ∈ soFar.modelName? ∨
          ∃ node ∈ objectsOfItems index items, ∀ root, modelAt root node.way = root
  | [], _, _, h => .inl h
  | item :: items, soFar, index, h => by
    have hrest : mention ∈
        (inferElement key (soFar.mergeOrKeep (inferType key item)) items).modelName? := h
    rw [objectsOfItems]
    simp only [List.mem_append]
    rcases exists_mem_objectsOfItems_of_mem_modelName? (index + 1) hrest with hmerge | hnode
    · refine (PropertyType.mem_modelName?_mergeOrKeep hmerge).imp_right fun hitem => ?_
      obtain ⟨node, hnode, hway⟩ := exists_mem_objects_of_mem_modelName? hitem
      exact ⟨node.within (.item index), .inl (List.mem_map_of_mem hnode), hway⟩
    · obtain ⟨node, hnode, hway⟩ := hnode
      exact .inr ⟨node, .inr hnode, hway⟩

end

end Json

/-! ## Closure -/

/-- An object whose value for a key mentions a model shows an object of the model that the key
names. -/
theorem exists_mem_objectsOf_upperCamel {sightings : List Sighting} {owner key mention : String}
    {members : Members} (hmembers : members ∈ objectsOf owner sightings) {value : Json}
    (hvalue : value ∈ members.under key) (hmention : mention ∈ (inferType key value).modelName?) :
    ∃ inner, inner ∈ objectsOf (upperCamel key) sightings := by
  obtain ⟨sighting, hsighting, outer, houter, hshown, -, rfl⟩ := mem_objectsOf.1 hmembers
  obtain ⟨node, hnode, hway⟩ := exists_mem_objects_of_mem_modelName? hmention
  obtain ⟨member, hunder, rfl⟩ := List.mem_map.1 hvalue
  obtain ⟨hmember, hkey⟩ := List.mem_filter.1 hunder
  obtain rfl := of_decide_eq_true hkey
  have hinner : node.within (.member member.1) ∈ objectsOfMembers outer.members :=
    mem_objectsOfMembers.2 ⟨member, hmember, node, hnode, rfl⟩
  refine ⟨node.members, mem_objectsOf.2 ⟨sighting, hsighting, _, inside_mem_objects houter hinner,
    isShown_inside hshown member.1 node, ?_, rfl⟩⟩
  exact (modelAt_append _ _ _).trans (hway _)

namespace ModelSet

variable {sightings : List Sighting}

/-- A model has been discovered when there is an object of it. -/
theorem mem_names_iff {name : String} :
    name ∈ (ofSightings sightings).names ↔ ∃ members, members ∈ objectsOf name sightings := by
  rw [names_ofSightings, List.mem_eraseDups, namesSeen, List.mem_map]
  simp [objectsOf, membersOf]

/-- What the properties of a model mention are models of the set, each named by the key of the
property. -/
theorem mem_names_of_mem_modelName? {name : String} {model : ObservedModel}
    (hmodel : (name, model) ∈ (ofSightings sightings).models) {propertyName : String → String}
    {property : Property} (hproperty : property ∈ model.properties propertyName) {mention : String}
    (hmention : mention ∈ property.type.modelName?) :
    mention = upperCamel property.key ∧ mention ∈ (ofSightings sightings).names := by
  rw [models_ofSightings] at hmodel
  obtain ⟨owner, -, heq⟩ := List.mem_map.1 hmodel
  cases heq
  have hname := ObservedModel.eq_of_mem_modelName?_property hproperty hmention
  obtain ⟨members, hmembers, value, hvalue, hvalueMention⟩ :=
    ObservedModel.exists_of_mem_modelName?_property hproperty hmention
  refine ⟨hname, ?_⟩
  rw [hname]
  exact mem_names_iff.2 (exists_mem_objectsOf_upperCamel hmembers hvalue hvalueMention)

end ModelSet

end PayloadModels
