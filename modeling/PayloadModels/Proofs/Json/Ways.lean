import PayloadModels.Proofs.Json.DistinctKeys

/-!
# Following ways

The ways that `Json.objects` lists can be followed (`Json.follow`). The list is complete and names
nothing twice: an object is on it exactly when its way leads to it (`mem_objects_iff`), and no two
entries have one way (`nodup_ways`). So counting entries of the list counts places in the value.
-/

namespace PayloadModels.Json

/-- The value at the end of a way. -/
def follow : Json → List Step → Option Json
  | value, [] => some value
  | .obj members, .member key :: way => (Members.get? key members).bind (follow · way)
  | .arr items, .item index :: way => items[index]?.bind (follow · way)
  | _, _ :: _ => none

/-- When keys are distinct, a key has the value of any member with the key. -/
theorem Members.get?_eq_some_iff {members : Members} {key : String} {value : Json}
    (h : (members.map (·.1)).Nodup) : members.get? key = some value ↔ (key, value) ∈ members := by
  induction members with
  | nil => simp
  | cons head members ih =>
    obtain ⟨k, v⟩ := head
    obtain ⟨hnew, hrest⟩ := List.nodup_cons.1 h
    rw [get?_cons, List.mem_cons]
    by_cases heq : key = k
    · subst heq
      have hother : (key, value) ∉ members := fun hmem => by
        have hkey : key ∈ members.map (·.1) := List.mem_map_of_mem hmem
        exact hnew hkey
      simp [hother, eq_comm]
    · simp [ih hrest, heq]

/-- An object is listed exactly when its way leads to it. -/
theorem mem_objects_iff {value : Json} {node : ObjectNode} (h : value.DistinctKeys) :
    node ∈ value.objects ↔ value.follow node.way = some (.obj node.members) := by
  obtain ⟨way, held⟩ := node
  induction h generalizing way held with
  | null | bool | num | str => cases way <;> simp [objects, follow]
  | arr _ ih =>
    rw [objects, mem_objectsOfItems]
    cases way with
    | nil => simp [follow, ObjectNode.within]
    | cons step way =>
      cases step with
      | member key => simp [follow, ObjectNode.within]
      | item index =>
        simp only [follow, Option.bind_eq_some_iff]
        constructor
        · rintro ⟨i, item, hitem, inner, hinner, heq⟩
          cases heq
          rw [Nat.zero_add]
          exact ⟨item, hitem, (ih item (List.mem_of_getElem? hitem) _ _).1 hinner⟩
        · rintro ⟨item, hitem, hway⟩
          have hinner := (ih item (List.mem_of_getElem? hitem) _ _).2 hway
          exact ⟨index, item, hitem, ⟨way, held⟩, hinner, by rw [Nat.zero_add]; rfl⟩
  | obj hnodup _ ih =>
    rw [objects, List.mem_cons, mem_objectsOfMembers]
    cases way with
    | nil => simp [follow, ObjectNode.within, @eq_comm _ held]
    | cons step way =>
      cases step with
      | item index => simp [follow, ObjectNode.within]
      | member key =>
        simp only [follow, Option.bind_eq_some_iff, Members.get?_eq_some_iff hnodup]
        constructor
        · rintro (heq | ⟨member, hmember, inner, hinner, heq⟩)
          · cases heq
          · cases heq
            exact ⟨member.2, hmember, (ih member hmember _ _).1 hinner⟩
        · rintro ⟨value, hmember, hway⟩
          exact .inr ⟨(key, value), hmember, ⟨way, held⟩, (ih _ hmember _ _).2 hway, rfl⟩

/-! ## Each way once -/

/-- Seen from further out, each way has one more step in front. -/
theorem map_way_within (step : Step) (nodes : List ObjectNode) :
    (nodes.map (ObjectNode.within step)).map (·.way) = (nodes.map (·.way)).map (step :: ·) := by
  simp [ObjectNode.within]

/-- Seen from further out, different ways are different. -/
theorem nodup_ways_within (step : Step) {nodes : List ObjectNode}
    (h : (nodes.map (·.way)).Nodup) : ((nodes.map (ObjectNode.within step)).map (·.way)).Nodup := by
  rw [map_way_within]
  exact List.Pairwise.map _ (fun a b hne heq => hne (List.cons.inj heq).2) h

/-- No two objects in the items of an array have one way, as none in one item do. -/
theorem nodup_ways_objectsOfItems {index : Nat} {items : List Json}
    (h : ∀ item ∈ items, (item.objects.map (·.way)).Nodup) :
    ((objectsOfItems index items).map (·.way)).Nodup := by
  induction items generalizing index with
  | nil => exact List.nodup_nil
  | cons item items ih =>
    obtain ⟨hitem, hitems⟩ := List.forall_mem_cons.1 h
    rw [objectsOfItems, List.map_append, List.nodup_append]
    refine ⟨nodup_ways_within _ hitem, ih hitems, fun a ha b hb => ?_⟩
    -- The ways differ in their first step: what comes later has a higher place.
    rw [map_way_within, List.mem_map] at ha
    obtain ⟨way, -, rfl⟩ := ha
    obtain ⟨node, hnode, rfl⟩ := List.mem_map.1 hb
    obtain ⟨i, later, -, inner, -, rfl⟩ := mem_objectsOfItems.1 hnode
    simp [ObjectNode.within]
    omega

/-- No two objects in the members of an object have one way, as keys are distinct. -/
theorem nodup_ways_objectsOfMembers {members : List (String × Json)}
    (hkeys : (members.map (·.1)).Nodup)
    (h : ∀ member ∈ members, (member.2.objects.map (·.way)).Nodup) :
    ((objectsOfMembers members).map (·.way)).Nodup := by
  induction members with
  | nil => exact List.nodup_nil
  | cons member members ih =>
    obtain ⟨hmember, hmembers⟩ := List.forall_mem_cons.1 h
    obtain ⟨hnew, hrest⟩ := List.nodup_cons.1 hkeys
    rw [objectsOfMembers, List.map_append, List.nodup_append]
    refine ⟨nodup_ways_within _ hmember, ih hrest hmembers, fun a ha b hb => ?_⟩
    rw [map_way_within, List.mem_map] at ha
    obtain ⟨way, -, rfl⟩ := ha
    obtain ⟨node, hnode, rfl⟩ := List.mem_map.1 hb
    obtain ⟨other, hother, inner, -, rfl⟩ := mem_objectsOfMembers.1 hnode
    have hne : other.1 ≠ member.1 := ne_of_mem_of_not_mem (List.mem_map_of_mem hother) hnew
    simp [ObjectNode.within, hne.symm]

/-- No two objects are listed with one way. -/
theorem nodup_ways {value : Json} (h : value.DistinctKeys) :
    (value.objects.map (·.way)).Nodup := by
  induction h with
  | null | bool | num | str => exact List.nodup_nil
  | arr _ ih => exact nodup_ways_objectsOfItems ih
  | obj hnodup _ ih =>
    rw [objects, List.map_cons, List.nodup_cons]
    refine ⟨fun hroot => ?_, nodup_ways_objectsOfMembers hnodup ih⟩
    obtain ⟨node, hnode, hway⟩ := List.mem_map.1 hroot
    obtain ⟨member, -, inner, -, rfl⟩ := mem_objectsOfMembers.1 hnode
    cases hway

end PayloadModels.Json
