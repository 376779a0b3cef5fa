import PayloadModels.Json.Basic
import PayloadModels.Naming

/-!
# Properties and their types

What a model says of a payload key: a type, inferred from the values that samples hold under it,
and whether some sample lacks it.
-/

namespace PayloadModels

/-!
## Types of properties

A property's type is inferred from the values that sample payloads hold for it. Types are ordered
by how much they have seen: `unknown`, which only `null` has shown, is below every type, `int` is
below `double`, and arrays follow their elements. `join?` is the least type above two others,
when there is one; `merge` names the two types when there is none.
-/

/-- The type of a model's property. -/
inductive PropertyType where
  /-- Only `null` has been seen. -/
  | unknown
  | bool
  | int
  | double
  | string
  /-- An instance of the model of that name. -/
  | object (model : String)
  /-- A list whose elements have one type. -/
  | array (element : PropertyType)
  deriving DecidableEq, Repr, Inhabited

/-- Two types that no type is above. -/
structure TypeConflict where
  existing : PropertyType
  incoming : PropertyType
  deriving DecidableEq, Repr

namespace PropertyType

/-- The least type above both, if there is one. -/
def join? : PropertyType → PropertyType → Option PropertyType
  | unknown, b => some b
  | a, unknown => some a
  | int, double => some double
  | double, int => some double
  | array a, array b => (join? a b).map array
  | a, b => if a = b then some a else none

/-- The type of a property seen with one type and then with another, or the two types when they
do not agree. -/
def merge (existing incoming : PropertyType) : Except TypeConflict PropertyType :=
  match join? existing incoming with
  | some type => .ok type
  | none => .error ⟨existing, incoming⟩

/-- The type of a property seen with one type and then with another, where the first wins when
they do not agree. -/
def mergeOrKeep (existing incoming : PropertyType) : PropertyType :=
  (join? existing incoming).getD existing

/-- The model that the type mentions, inside any number of arrays. -/
def modelName? : PropertyType → Option String
  | object model => some model
  | array element => modelName? element
  | _ => none

/-- A type whose values are plain numbers or truth values, not references. -/
def isScalar : PropertyType → Bool
  | bool | int | double => true
  | _ => false

/-- The type as messages write it. -/
def describe : PropertyType → String
  | unknown => "unknown"
  | bool => "bool"
  | int => "int"
  | double => "double"
  | string => "string"
  | object model => model
  | array element => "[" ++ describe element ++ "]"

end PropertyType

/-!
## Types of values

The type that one payload value shows for its key (`inferType`). An object is an instance of the
model that the key names, and the elements of an array are merged into one type, where an element
that does not agree with those before it is left out.
-/

mutual

/-- The type that a value under a key shows. -/
def inferType (key : String) : Json → PropertyType
  | .null => .unknown
  | .bool _ => .bool
  | .num (.int _) => .int
  | .num (.float _) => .double
  | .str _ => .string
  | .obj _ => .object (Naming.upperCamel key)
  | .arr items => .array (inferElement key .unknown items)

/-- The type of the elements of an array under a key, where `soFar` is the type of those
before. -/
def inferElement (key : String) (soFar : PropertyType) : List Json → PropertyType
  | [] => soFar
  | item :: items => inferElement key (soFar.mergeOrKeep (inferType key item)) items

end

/-!
## Properties of a model

A `Property` ties a payload key to the name that a target language gives it, and a `HandEdit` is
a line of an earlier file that someone tagged to be kept.
-/

/-- One property of a model. -/
structure Property where
  /-- The key that payloads hold the value under. -/
  key : String
  /-- The name in the target language. -/
  name : String
  type : PropertyType
  /-- Whether some payload lacked the value. -/
  isOptional : Bool
  deriving DecidableEq, Repr

/-- Whether two properties have the same key and type; names and optionality do not count. -/
def Property.sameField (a b : Property) : Bool := a.key = b.key && a.type = b.type

/-- A line of a generated file that was edited by hand, and the property it declares. -/
structure HandEdit where
  /-- The line as it was written. -/
  line : String
  name : String
  deriving DecidableEq, Repr

/-- The first hand edit that declares a property. -/
def HandEdit.find? (edits : List HandEdit) (name : String) : Option HandEdit :=
  List.find? (fun edit => edit.name = name) edits

end PayloadModels
