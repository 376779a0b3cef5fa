import PayloadModels.Decimal.Reader
import PayloadModels.Json.Basic

/-!
# Values of a known type

A value whose type the caller knows is asked for by that type, and there is no answer when the
value is of another one. An integer answers as a binary64 number too, but a number with a
fraction or an exponent never as an integer.
-/

namespace PayloadModels.Json

/-- The integer that a value is, if it lies between two bounds. -/
def integer? (least greatest : Int) : Json → Option Int
  | num (.int n) => if least ≤ n ∧ n ≤ greatest then some n else none
  | _ => none

/-- The signed integer of 64 bits that a value is. -/
def int64? : Json → Option Int := integer? leastInt64 greatestInt64

/-- The unsigned integer of 64 bits that a value is. -/
def uint64? : Json → Option Int := integer? 0 greatestUInt64

/-- The unsigned integer of 8 bits that a value is. -/
def uint8? : Json → Option Int := integer? 0 255

/-- The binary64 number that a value is, or is nearest to. -/
def binary64? : Json → Option Binary64
  | num (.int n) => some (.ofInt n)
  | num (.float x) => some x
  | _ => none

/-- The truth value that a value is. -/
def bool? : Json → Option Bool
  | bool b => some b
  | _ => none

/-- The string that a value is. -/
def string? : Json → Option String
  | str s => some s
  | _ => none

/-- The list that a value is, each item of which is read by `read`. -/
def list? {α : Type} (read : Json → Option α) : Json → Option (List α)
  | arr items => items.mapM read
  | _ => none

/-- The value that `read` reads, where `null` stands for none. -/
def nullable? {α : Type} (read : Json → Option α) (value : Json) : Option (Option α) :=
  if value.isNull then some none else (read value).map some

/-- The value of a key, read by `read`; there is none when the key is absent. -/
def Members.getAs? {α : Type} (read : Json → Option α) (key : String) (members : Members) :
    Option α :=
  (members.get? key).bind read

end PayloadModels.Json
