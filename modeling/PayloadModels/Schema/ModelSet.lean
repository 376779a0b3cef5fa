import PayloadModels.Schema.ObservedModel
import Std.Data.HashMap

/-!
# Sets of models

All models that payloads have shown, in the order in which they were discovered, with an index
from names to places (`ModelSet`). An object belongs to the model it was handed in for, and an
object inside it to the model that its key names, through any number of arrays. Observing an
object first records the object itself and then, in order, the objects inside it
(`ModelSet.observe`).
-/

namespace PayloadModels

/-- The models that have been discovered. -/
structure ModelSet where
  /-- The models with their names, in the order of discovery. -/
  models : List (String × ObservedModel)
  /-- The place of each name in `models`. -/
  index : Std.HashMap String Nat

namespace ModelSet

/-- The set without models. -/
def empty : ModelSet := ⟨[], ∅⟩

instance : EmptyCollection ModelSet := ⟨empty⟩

instance : Inhabited ModelSet := ⟨empty⟩

/-- The names of the models, in order. -/
def names (set : ModelSet) : List String := set.models.map (·.1)

/-- The number of models. -/
def size (set : ModelSet) : Nat := set.models.length

/-- Whether no model has been discovered. -/
def isEmpty (set : ModelSet) : Bool := set.models.isEmpty

/-- The model of a name, if it has been discovered. -/
def get? (set : ModelSet) (name : String) : Option ObservedModel :=
  set.index[name]?.bind fun i => set.models[i]?.map (·.2)

/-- The set with a model changed; a name that is new is discovered. -/
def update (set : ModelSet) (name : String) (change : ObservedModel → ObservedModel) : ModelSet :=
  match set.index[name]? with
  | some i => { set with models := set.models.modify i fun (name, model) => (name, change model) }
  | none =>
    { models := set.models ++ [(name, change ∅)]
      index := set.index.insert name set.models.length }

/-- The set after an object of a model was seen, without the objects inside it. -/
def record (set : ModelSet) (name : String) (members : Json.Members) : ModelSet :=
  set.update name (·.record members)

mutual

/-- The set after the objects of a value were seen, the outermost of which belong to the model
`name`. -/
def observeValue (set : ModelSet) (name : String) : Json → ModelSet
  | .obj members => observeMembers (set.record name members) members
  | .arr items => observeItems set name items
  | _ => set

/-- The set after the objects of the items of an array were seen. -/
def observeItems (set : ModelSet) (name : String) : List Json → ModelSet
  | [] => set
  | item :: items => observeItems (observeValue set name item) name items

/-- The set after the objects inside the members of an object were seen. -/
def observeMembers (set : ModelSet) : List (String × Json) → ModelSet
  | [] => set
  | (key, value) :: members =>
    observeMembers (observeValue set (Naming.upperCamel key) value) members

end

/-- The set after an object of a model was seen, with the objects inside it. -/
def observe (set : ModelSet) (name : String) (members : Json.Members) : ModelSet :=
  observeMembers (set.record name members) members

/-- The set after several objects of a model were seen. -/
def observeAll (set : ModelSet) (name : String) (objects : List Json.Members) : ModelSet :=
  objects.foldl (fun set members => set.observe name members) set

/-- The objects that a payload holds for the model it was handed in for: the payload itself, or
its items when it is an array; all else is passed over. -/
def rootObjects : Json → List Json.Members
  | .obj members => [members]
  | .arr items => items.filterMap fun
    | .obj members => some members
    | _ => none
  | _ => []

/-- The set after a whole payload was seen, and how many iterations of the model that added. -/
def walk (set : ModelSet) (name : String) (payload : Json) : ModelSet × Nat :=
  let objects := rootObjects payload
  (set.observeAll name objects, objects.length)

end ModelSet

end PayloadModels
