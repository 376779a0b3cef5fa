import PayloadModels.Proofs.Json.Objects
import PayloadModels.Schema.ModelSet

/-!
# The objects that belong to a model

Which objects a payload shows and what they belong to, told without a set of models: of the objects
inside a value (`Json.objects`), `modelAt` reads off the way that leads to each the model that it
belongs to. Showing payloads to a set (`ModelSet.ofSightings`) then comes to recording
these objects, each one once, one after another (`ofSightings_eq_recordAll`); the recursion that
puts off the objects inside an object has no other effect.
-/

namespace PayloadModels

namespace Json

/-- The model that the object at the end of a way belongs to: the one that the last key on the
way names, or `root` when there is no key on it. -/
def modelAt (root : String) : List Step → String
  | [] => root
  | .member key :: way => modelAt (Naming.upperCamel key) way
  | .item _ :: way => modelAt root way

/-- Whether a way leads through an array that is itself an item of the outermost array. What lies
there is passed over. -/
def isPassedOver : List Step → Bool
  | .item _ :: .item _ :: _ => true
  | _ => false

/-- The members of some objects, with the models that they belong to below the model `root`. -/
def instances (root : String) (nodes : List ObjectNode) : List (String × Members) :=
  nodes.map fun node => (modelAt root node.way, node.members)

/-- Each object belongs to its model, whatever objects there are besides. -/
theorem instances_append (root : String) (xs ys : List ObjectNode) :
    instances root (xs ++ ys) = instances root xs ++ instances root ys := List.map_append

/-- An array does not change what the objects in it belong to. -/
theorem instances_within_item (root : String) (index : Nat) (nodes : List ObjectNode) :
    instances root (nodes.map (.within (.item index))) = instances root nodes := by
  simp [instances, ObjectNode.within, modelAt]

/-- Objects under a key belong to the model that the key names. -/
theorem instances_within_member (root key : String) (nodes : List ObjectNode) :
    instances root (nodes.map (.within (.member key)))
      = instances (Naming.upperCamel key) nodes := by
  simp [instances, ObjectNode.within, modelAt]

/-- Whether the payload shows an object, which it does unless the object is passed over. -/
def ObjectNode.isShown (node : ObjectNode) : Bool := !isPassedOver node.way

/-- All objects of an object are shown. -/
theorem filter_isShown_obj (members : Members) :
    (objects (.obj members)).filter ObjectNode.isShown = objects (.obj members) := by
  refine List.filter_eq_self.2 fun node h => ?_
  rcases List.mem_cons.1 h with rfl | h
  · rfl
  · obtain ⟨member, -, inner, -, rfl⟩ := mem_objectsOfMembers.1 h
    simp [ObjectNode.isShown, ObjectNode.within, isPassedOver]

/-- An item that is an object is shown with all that it holds. -/
theorem filter_isShown_item_obj (index : Nat) (members : Members) :
    ((objects (.obj members)).map (.within (.item index))).filter ObjectNode.isShown
      = (objects (.obj members)).map (.within (.item index)) := by
  refine List.filter_eq_self.2 fun node h => ?_
  obtain ⟨inner, hinner, rfl⟩ := List.mem_map.1 h
  rcases List.mem_cons.1 hinner with rfl | hinner
  · rfl
  · obtain ⟨member, -, inner, -, rfl⟩ := mem_objectsOfMembers.1 hinner
    simp [ObjectNode.isShown, ObjectNode.within, isPassedOver]

/-- Nothing is shown of an item that is an array. -/
theorem filter_isShown_item_arr (index : Nat) (items : List Json) :
    ((objects (.arr items)).map (.within (.item index))).filter ObjectNode.isShown = [] := by
  refine List.filter_eq_nil_iff.2 fun node h => ?_
  obtain ⟨inner, hinner, rfl⟩ := List.mem_map.1 h
  obtain ⟨i, item, -, inner, -, rfl⟩ := mem_objectsOfItems.1 hinner
  simp [ObjectNode.isShown, ObjectNode.within, isPassedOver]

end Json

open Json

/-- One call that shows something to a set of models. -/
inductive Sighting where
  /-- A whole payload. -/
  | payload (model : String) (value : Json)
  /-- A single object. -/
  | object (model : String) (members : Members)

namespace Sighting

/-- The model that the outermost objects belong to. -/
def model : Sighting → String
  | payload model _ => model
  | object model _ => model

/-- The value that is shown. -/
def value : Sighting → Json
  | payload _ value => value
  | object _ members => .obj members

/-- The objects that are shown, with the models that they belong to. -/
def instances (sighting : Sighting) : List (String × Members) :=
  Json.instances sighting.model (sighting.value.objects.filter ObjectNode.isShown)

end Sighting

/-- The objects of a model among those of several models. -/
def membersOf (model : String) (instances : List (String × Members)) : List Members :=
  (instances.filter (·.1 = model)).map (·.2)

/-- The first object counts for its own model only. -/
theorem membersOf_cons (model owner : String) (members : Members)
    (instances : List (String × Members)) :
    membersOf model ((owner, members) :: instances)
      = if owner = model then members :: membersOf model instances
        else membersOf model instances := by
  by_cases h : owner = model <;> simp [membersOf, h]

/-- The objects of a model among those that are shown. -/
def objectsOf (model : String) (sightings : List Sighting) : List Members :=
  membersOf model (sightings.flatMap Sighting.instances)

namespace ModelSet

/-- The set after one more call. -/
def see (set : ModelSet) : Sighting → ModelSet
  | .payload model value => (set.walk model value).1
  | .object model members => set.observe model members

/-- The set that begins empty, after some calls. -/
def ofSightings (sightings : List Sighting) : ModelSet := sightings.foldl see ∅

/-- The set after several objects were recorded. -/
def recordAll (set : ModelSet) (instances : List (String × Members)) : ModelSet :=
  instances.foldl (fun set (name, members) => set.record name members) set

/-- Objects are recorded one after another. -/
theorem recordAll_append (set : ModelSet) (xs ys : List (String × Members)) :
    set.recordAll (xs ++ ys) = (set.recordAll xs).recordAll ys := List.foldl_append

mutual

/-- Observing a value records its objects, one after another. -/
theorem observeValue_eq (set : ModelSet) (name : String) :
    ∀ value, set.observeValue name value = set.recordAll (instances name value.objects)
  | .obj members => by
    rw [observeValue, objects, observeMembers_eq _ name]
    rfl
  | .arr items => by rw [observeValue, objects, observeItems_eq _ _ 0]
  | .null | .bool _ | .num _ | .str _ => rfl

/-- Observing items records their objects, one after another. -/
theorem observeItems_eq (set : ModelSet) (name : String) (index : Nat) :
    ∀ items, set.observeItems name items
      = set.recordAll (instances name (objectsOfItems index items))
  | [] => rfl
  | item :: items => by
    rw [observeItems, objectsOfItems, instances_append, instances_within_item,
      recordAll_append, observeValue_eq, observeItems_eq _ _ (index + 1)]

/-- Observing members records the objects in their values, one after another. -/
theorem observeMembers_eq (set : ModelSet) (root : String) :
    ∀ members, set.observeMembers members
      = set.recordAll (instances root (objectsOfMembers members))
  | [] => rfl
  | (key, value) :: members => by
    rw [observeMembers, objectsOfMembers, instances_append, instances_within_member,
      recordAll_append, observeValue_eq, observeMembers_eq _ root]

end

/-- Observing an object records it and then the objects inside it. -/
theorem observe_eq (set : ModelSet) (name : String) (members : Members) :
    set.observe name members = set.recordAll (instances name (objects (.obj members))) :=
  observeValue_eq set name (.obj members)

/-- Walking the items of an array records the objects that it shows. -/
theorem observeAll_items_eq (set : ModelSet) (name : String) (index : Nat) (items : List Json) :
    set.observeAll name (rootObjects (.arr items)) = set.recordAll
      (instances name ((objectsOfItems index items).filter ObjectNode.isShown)) := by
  induction items generalizing set index with
  | nil => rfl
  | cons item items ih =>
    rw [objectsOfItems, List.filter_append, instances_append, recordAll_append,
      ← ih _ (index + 1)]
    cases item with
    | obj members =>
      rw [filter_isShown_item_obj, instances_within_item, ← observe_eq]
      rfl
    | arr items => rw [filter_isShown_item_arr]; rfl
    | null | bool _ | num _ | str _ => rfl

/-- A call records the objects that it shows. -/
theorem see_eq (set : ModelSet) (sighting : Sighting) :
    set.see sighting = set.recordAll sighting.instances := by
  cases sighting with
  | object model members =>
    rw [Sighting.instances, Sighting.value, filter_isShown_obj]
    exact observe_eq set model members
  | payload model value =>
    cases value with
    | obj members =>
      rw [Sighting.instances, Sighting.value, filter_isShown_obj]
      exact observe_eq set model members
    | arr items => exact observeAll_items_eq set model 0 items
    | null | bool _ | num _ | str _ => rfl

/-- Calls record the objects that they show, one after another. -/
theorem foldl_see_eq (set : ModelSet) (sightings : List Sighting) :
    sightings.foldl see set = set.recordAll (sightings.flatMap Sighting.instances) := by
  induction sightings generalizing set with
  | nil => rfl
  | cons sighting sightings ih =>
    rw [List.foldl_cons, ih, see_eq, List.flatMap_cons, recordAll_append]

/-- A set has recorded the objects that were shown to it, each once, in order. -/
theorem ofSightings_eq_recordAll (sightings : List Sighting) :
    ofSightings sightings = recordAll ∅ (sightings.flatMap Sighting.instances) :=
  foldl_see_eq ∅ sightings

end ModelSet

end PayloadModels
