import PayloadModels.Decimal.Reader
import PayloadModels.Json.Reader
import PayloadModels.Text

/-!
# Ratings

The rating of a product: how many votes there are, and their average. A rating is read from any
object. Numbers, numbers in strings and truth values count, and everything else counts as
zero.
-/

namespace PayloadModels

/-- The rating of a product. -/
structure Rating where
  count : Int64
  average : Binary64
  deriving DecidableEq, Repr

namespace Rating

/-- The integer of 64 bits nearest to an integer. -/
def clamp (n : Int) : Int64 := Int64.ofInt (max leastInt64 (min greatestInt64 n))

/-- The integer of 64 bits nearest to a number without its fraction. -/
def integerPart (x : Binary64) : Int64 :=
  if x.isNaN then 0
  else if x.isInfinite then Int64.ofInt (if x.isNegative then leastInt64 else greatestInt64)
  else clamp x.truncate

/-- A value as a count. -/
def countOf : Json → Int64
  | .num (.int n) => clamp n
  | .num (.float x) => integerPart x
  | .str s =>
    let text := Text.trim s.toList
    match readInt64? text with
    | some n => clamp n
    | none => (readBinary64? text).elim 0 integerPart
  | .bool b => if b then 1 else 0
  | _ => 0

/-- A value as an average. -/
def averageOf : Json → Binary64
  | .num (.int n) => .ofInt n
  | .num (.float x) => x
  | .str s => (readBinary64? (Text.trim s.toList)).getD .zero
  | .bool b => if b then .one else .zero
  | _ => .zero

/-- The rating that an object holds. -/
def ofMembers (members : Json.Members) : Rating :=
  { count := (members.get? "count").elim 0 countOf
    average := (members.get? "average").elim .zero averageOf }

/-- The rating that a text writes as an object. -/
def parse (text : String) : Except Json.Fault Rating := (Json.parseMembers text).map ofMembers

/-- The rating as an object. -/
def toJson (rating : Rating) : Json :=
  .obj [("count", .num (.int rating.count.toInt)), ("average", .num (.float rating.average))]

end Rating

end PayloadModels
