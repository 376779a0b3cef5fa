import PayloadModels.Decimal.Binary64

/-!
# JSON values

Payloads are JSON. An integer is kept apart from a number with a fraction or an exponent, since a
property's type depends on it, and an object keeps its members in the order in which their keys
first appear.
-/

namespace PayloadModels

/-- A JSON number. -/
inductive Json.Number where
  /-- An integer of 64 bits, signed or not. -/
  | int (value : Int)
  | float (value : Binary64)
  deriving DecidableEq, Repr

/-- A JSON value. -/
inductive Json where
  | null
  | bool (value : Bool)
  | num (value : Json.Number)
  | str (value : String)
  | arr (items : List Json)
  | obj (members : List (String × Json))
  deriving Repr, Inhabited

namespace Json

/-- The members of an object, in order. -/
abbrev Members := List (String × Json)

/-- The members with a key set to a value: in its place if the key is there, else at the end. -/
def Members.set (key : String) (value : Json) : Members → Members
  | [] => [(key, value)]
  | (k, v) :: rest => if k = key then (k, value) :: rest else (k, v) :: Members.set key value rest

/-- The value of a key, if the key is there. -/
def Members.get? (key : String) (members : Members) : Option Json := members.lookup key

/-- Whether the value is `null`. -/
def isNull : Json → Bool
  | null => true
  | _ => false

end Json

end PayloadModels
