import PayloadModels.Schema.Property

/-!
# What has been seen of a model

Every payload object that belongs to a model is one iteration of it. For each key the model
remembers the type, in how many iterations it occurred, and whether it was ever `null`
(`ObservedField`); a property is optional when some iteration lacked it or held `null` for it.
-/

namespace PayloadModels

/-- What has been seen of one key. -/
structure ObservedField where
  key : String
  type : PropertyType
  occurrences : Nat
  nullable : Bool
  deriving DecidableEq, Repr

namespace ObservedField

/-- The field of a key that occurs for the first time. -/
def first (key : String) (type : PropertyType) : ObservedField :=
  ⟨key, type, 1, type = .unknown⟩

/-- The field after one more occurrence. A type that does not agree with those before changes
nothing but the count. -/
def again (field : ObservedField) (type : PropertyType) : ObservedField :=
  { field with
    type := field.type.mergeOrKeep type
    occurrences := field.occurrences + 1
    nullable := field.nullable || type = .unknown }

end ObservedField

/-- What has been seen of a model. -/
structure ObservedModel where
  iterations : Nat
  /-- The fields, in the order in which their keys were first seen. -/
  fields : List ObservedField
  deriving DecidableEq, Repr

namespace ObservedModel

/-- The model of which nothing has been seen. -/
def empty : ObservedModel := ⟨0, []⟩

instance : EmptyCollection ObservedModel := ⟨empty⟩

instance : Inhabited ObservedModel := ⟨empty⟩

/-- The model at the beginning of one more iteration. -/
def beginIteration (model : ObservedModel) : ObservedModel :=
  { model with iterations := model.iterations + 1 }

/-- The fields after one more occurrence of a key. -/
def observeField (key : String) (type : PropertyType) : List ObservedField → List ObservedField
  | [] => [.first key type]
  | field :: fields =>
    if field.key = key then field.again type :: fields else field :: observeField key type fields

/-- The model after a key occurred with a type. -/
def observe (model : ObservedModel) (key : String) (type : PropertyType) : ObservedModel :=
  { model with fields := observeField key type model.fields }

/-- The model after an object of it was seen. -/
def record (model : ObservedModel) (members : Json.Members) : ObservedModel :=
  members.foldl (fun model (key, value) => model.observe key (inferType key value))
    model.beginIteration

/-- The field of a key, if the key was seen. -/
def field? (model : ObservedModel) (key : String) : Option ObservedField :=
  model.fields.find? (·.key = key)

/-- Whether a field is optional in the model. -/
def fieldIsOptional (model : ObservedModel) (field : ObservedField) : Bool :=
  field.nullable || field.occurrences < model.iterations

/-- Whether a key is optional, if it was seen. -/
def isOptional? (model : ObservedModel) (key : String) : Option Bool :=
  (model.field? key).map model.fieldIsOptional

/-- The type of a key, if it was seen. -/
def type? (model : ObservedModel) (key : String) : Option PropertyType :=
  (model.field? key).map (·.type)

/-- The properties of the model, under the names that `propertyName` gives the keys. -/
def properties (model : ObservedModel) (propertyName : String → String) : List Property :=
  model.fields.map fun field =>
    { key := field.key
      name := propertyName field.key
      type := field.type
      isOptional := model.fieldIsOptional field }

end ObservedModel

end PayloadModels
