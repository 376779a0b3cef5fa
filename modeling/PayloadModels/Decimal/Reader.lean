import PayloadModels.Decimal.Binary64

/-!
# Reading numbers

The integers that 64 bits hold, and the numbers that texts write.
-/

namespace PayloadModels

/-!
## Bounds of integers

The least and greatest integers of 64 bits.
-/

/-- The least signed integer of 64 bits. -/
def leastInt64 : Int := -0x8000000000000000

/-- The greatest signed integer of 64 bits. -/
def greatestInt64 : Int := 0x7fffffffffffffff

/-- The greatest unsigned integer of 64 bits. -/
def greatestUInt64 : Nat := 0xffffffffffffffff

/-- Whether an integer is a signed one of 64 bits. -/
def isInt64 (n : Int) : Bool := leastInt64 ≤ n && n ≤ greatestInt64

/-- The integers of 64 bits are those between the bounds. -/
theorem isInt64_iff {n : Int} : isInt64 n ↔ leastInt64 ≤ n ∧ n ≤ greatestInt64 := by
  simp [isInt64]

/-- A machine integer is an integer of 64 bits. -/
theorem isInt64_toInt (n : Int64) : isInt64 n.toInt := by
  have hleast := n.le_toInt
  have hgreatest := n.toInt_lt
  rw [isInt64_iff, leastInt64, greatestInt64]
  omega

/-- An integer of 64 bits survives as a machine integer. -/
theorem toInt_ofInt {n : Int} (h : isInt64 n) : (Int64.ofInt n).toInt = n := by
  rw [isInt64_iff, leastInt64, greatestInt64] at h
  exact Int64.toInt_ofInt_of_le (by omega) (by omega)

/-!
## Numbers in texts

Integers and binary64 numbers as people write them in strings: a sign, digits, and for the latter
a fraction, an exponent or one of the names of infinity and of no number. A fraction may lack the
digits on one side of its point, not on both.
-/

/-- The number that decimal digits write. -/
def digitsValue (digits : List Char) : Nat :=
  digits.foldl (fun n d => n * 10 + (d.toNat - '0'.toNat)) 0

/-- The digits as a number, if there is one and all are digits. -/
def readDigits? (cs : List Char) : Option Nat :=
  if cs.isEmpty || !cs.all Char.isDigit then none else some (digitsValue cs)

/-- Whether a text has a minus sign, and what follows its sign. -/
def splitSign : List Char → Bool × List Char
  | '-' :: rest => (true, rest)
  | '+' :: rest => (false, rest)
  | cs => (false, cs)

/-- The integer that a whole text writes. -/
def readInt? (cs : List Char) : Option Int :=
  let (negative, digits) := splitSign cs
  (readDigits? digits).map fun n => if negative then -n else n

/-- The integer of 64 bits that a whole text writes. -/
def readInt64? (cs : List Char) : Option Int := (readInt? cs).filter isInt64

/-- The exponent that the rest of a number writes; there is none when nothing is left. -/
def readExponent? : List Char → Option Int
  | [] => some 0
  | c :: rest => if c = 'e' || c = 'E' then readInt? rest else none

/-- The fraction digits after a point, and what follows them. -/
def splitFraction : List Char → List Char × List Char
  | '.' :: rest => (rest.takeWhile Char.isDigit, rest.dropWhile Char.isDigit)
  | cs => ([], cs)

/-- The decimal that a text without its sign writes, rounded to the nearest binary64 number. -/
def readDecimal? (negative : Bool) (cs : List Char) : Option Binary64 :=
  let whole := cs.takeWhile Char.isDigit
  let (fraction, rest) := splitFraction (cs.dropWhile Char.isDigit)
  let digits := whole ++ fraction
  if digits.isEmpty then none
  else (readExponent? rest).map fun e =>
    Binary64.ofDecimal negative (digitsValue digits) (e - fraction.length)

/-- The binary64 number that a whole text writes. -/
def readBinary64? (cs : List Char) : Option Binary64 :=
  let (negative, rest) := splitSign cs
  match String.ofList (rest.map Char.toLower) with
  | "inf" | "infinity" => some (.infinite negative)
  | "nan" => some .nan
  | _ => readDecimal? negative rest

end PayloadModels
