import PayloadModels.Json.Basic

/-!
# The objects inside a value

A JSON value may hold objects at any depth, inside other objects and inside arrays. `Json.objects`
lists them all, each with the way that leads to it from the outside: the keys and places to follow,
one after another.
-/

namespace PayloadModels.Json

/-- A step from a container to a value in it. -/
inductive Step where
  | member (key : String)
  | item (index : Nat)
  deriving DecidableEq, Repr

/-- An object inside a value, with the way that leads to it. -/
structure ObjectNode where
  way : List Step
  members : Members

/-- The object as it is seen from one container further out. -/
def ObjectNode.within (step : Step) (node : ObjectNode) : ObjectNode :=
  { node with way := step :: node.way }

mutual

/-- The objects of a value, each before those inside it. -/
def objects : Json → List ObjectNode
  | .obj members => ⟨[], members⟩ :: objectsOfMembers members
  | .arr items => objectsOfItems 0 items
  | _ => []

/-- The objects of the items of an array, which are counted from `index`. -/
def objectsOfItems (index : Nat) : List Json → List ObjectNode
  | [] => []
  | item :: items =>
    (objects item).map (.within (.item index)) ++ objectsOfItems (index + 1) items

/-- The objects inside the members of an object. -/
def objectsOfMembers : List (String × Json) → List ObjectNode
  | [] => []
  | (key, value) :: members =>
    (objects value).map (.within (.member key)) ++ objectsOfMembers members

end

/-! ## Members -/

@[simp] theorem Members.get?_nil (key : String) : Members.get? key [] = none := rfl

/-- A key has the value of the first member with the key. -/
theorem Members.get?_cons (key k : String) (value : Json) (members : Members) :
    Members.get? key ((k, value) :: members)
      = if key = k then some value else members.get? key := by
  rw [get?, List.lookup_cons]
  by_cases h : key = k
  · simp [h]
  · simp [h, beq_false_of_ne h, get?]

/-- A key has no value when no member has the key. -/
theorem Members.get?_eq_none_iff {key : String} {members : Members} :
    members.get? key = none ↔ key ∉ members.map (·.1) := by
  induction members with
  | nil => simp
  | cons head members ih =>
    obtain ⟨k, value⟩ := head
    rw [get?_cons, List.map_cons, List.mem_cons, not_or, ← ih]
    by_cases h : key = k <;> simp [h]

/-! ## What is listed -/

variable {node : ObjectNode}

/-- The objects of an array's items are those of each item. -/
theorem mem_objectsOfItems {index : Nat} {items : List Json} :
    node ∈ objectsOfItems index items ↔ ∃ (i : Nat) (item : Json),
      items[i]? = some item ∧ ∃ inner ∈ objects item, node = inner.within (.item (index + i)) := by
  induction items generalizing index with
  | nil => simp [objectsOfItems]
  | cons item items ih =>
    rw [objectsOfItems, List.mem_append, List.mem_map, ih]
    constructor
    · rintro (⟨inner, hinner, rfl⟩ | ⟨i, item, hitem, inner, hinner, rfl⟩)
      · exact ⟨0, item, rfl, inner, hinner, rfl⟩
      · exact ⟨i + 1, item, hitem, inner, hinner, by rw [Nat.add_right_comm, Nat.add_assoc]⟩
    · rintro ⟨i, other, hother, inner, hinner, rfl⟩
      cases i with
      | zero =>
        cases hother
        exact .inl ⟨inner, hinner, rfl⟩
      | succ i =>
        exact .inr ⟨i, other, hother, inner, hinner, by rw [Nat.add_right_comm, Nat.add_assoc]⟩

/-- The objects of an object's members are those of each value. -/
theorem mem_objectsOfMembers {members : List (String × Json)} :
    node ∈ objectsOfMembers members ↔ ∃ member ∈ members,
      ∃ inner ∈ objects member.2, node = inner.within (.member member.1) := by
  induction members with
  | nil => simp [objectsOfMembers]
  | cons member members ih =>
    rw [objectsOfMembers, List.mem_append, List.mem_map, ih]
    simp [@eq_comm _ node]

end PayloadModels.Json
