/-!
# Binary64 numbers

Numbers with a fraction are kept in the binary64 format, by their bits, and all arithmetic on
them is exact arithmetic on natural numbers followed by one rounding (`ofRatio`). A finite number
is `significand * 2 ^ exponent` up to its sign.

The bits of a magnitude grow with the magnitude, and the next number's bits are the next natural
number. So a magnitude whose unit is `2 ^ e` and which holds `n` units has the bits
`(e + 1074) * 2 ^ 52 + n`, be it normal or not, and a rounding that carries needs no case of its
own.
-/

namespace PayloadModels

/-- A number in the binary64 format: a sign bit, eleven bits of exponent and 52 bits of
fraction. -/
structure Binary64 where
  bits : UInt64
  deriving DecidableEq, Repr, Inhabited

namespace Binary64

/-- The bits of the infinite magnitude. -/
def infiniteBits : Nat := 0x7ff0000000000000

/-- The bit of the sign, as a number. -/
def signBit : Nat := 0x8000000000000000

/-- The leading bit of a significand of full length. -/
def leadingBit : Nat := 0x10000000000000

/-- The number with a sign and the bits of a magnitude. -/
def ofMagnitude (negative : Bool) (magnitude : Nat) : Binary64 :=
  ⟨UInt64.ofNat ((if negative then signBit else 0) + magnitude)⟩

/-- The bits of the magnitude. -/
def magnitude (x : Binary64) : Nat := x.bits.toNat % signBit

/-- Whether the sign bit is set. -/
def isNegative (x : Binary64) : Bool := signBit ≤ x.bits.toNat

/-- Whether the number is infinite. -/
def isInfinite (x : Binary64) : Bool := x.magnitude = infiniteBits

/-- Whether the bits stand for no number. -/
def isNaN (x : Binary64) : Bool := infiniteBits < x.magnitude

/-- Whether the number is neither infinite nor no number at all. -/
def isFinite (x : Binary64) : Bool := x.magnitude < infiniteBits

/-- Whether the number is zero, of either sign. -/
def isZero (x : Binary64) : Bool := x.magnitude = 0

/-- Zero. -/
def zero : Binary64 := ofMagnitude false 0

/-- One. -/
def one : Binary64 := ofMagnitude false 0x3ff0000000000000

/-- The bits that no arithmetic result has when they stand for no number. -/
def nan : Binary64 := ofMagnitude false 0x7ff8000000000000

/-- The infinite number of a sign. -/
def infinite (negative : Bool) : Binary64 := ofMagnitude negative infiniteBits

/-- The number with its sign changed. -/
def neg (x : Binary64) : Binary64 := ofMagnitude (!x.isNegative) x.magnitude

/-- How many units a finite magnitude holds. -/
def significand (x : Binary64) : Nat :=
  if x.magnitude < leadingBit then x.magnitude else leadingBit + x.magnitude % leadingBit

/-- The power of two that is the unit of a finite magnitude. -/
def exponent (x : Binary64) : Int :=
  if x.magnitude < leadingBit then -1074 else (x.magnitude / leadingBit : Nat) - 1075

/-- The natural number nearest to a quotient; of two that are equally near, the even one. -/
def roundHalfEven (num den : Nat) : Nat :=
  let q := num / den
  let r := num % den
  if den < 2 * r ∨ (2 * r = den ∧ q % 2 = 1) then q + 1 else q

/-- The quotient divided by a power of two, as a pair of natural numbers. -/
def scaled (num den : Nat) (e : Int) : Nat × Nat :=
  (num * Nat.pow 2 (-e).toNat, den * Nat.pow 2 e.toNat)

/-- The power of two that is the unit of a quotient's magnitude: the quotient holds at least
`2 ^ 52` and less than `2 ^ 53` units, or fewer when the unit is the least one. -/
def unitExponent (num den : Nat) : Int :=
  let e : Int := (num.log2 : Int) - den.log2 - 52
  let (n, d) := scaled num den e
  max (if n < d * leadingBit then e - 1 else e) (-1074)

/-- The number nearest to a quotient of natural numbers; of two that are equally near, the one
whose last bit is zero. Quotients beyond every finite number round to infinity. -/
def ofRatio (negative : Bool) (num den : Nat) : Binary64 :=
  if num = 0 then ofMagnitude negative 0
  else
    let e := unitExponent num den
    let (n, d) := scaled num den e
    ofMagnitude negative (min ((e + 1074).toNat * leadingBit + roundHalfEven n d) infiniteBits)

/-- The number nearest to a natural number. -/
def ofNat (n : Nat) : Binary64 := ofRatio false n 1

/-- The number nearest to an integer. -/
def ofInt (n : Int) : Binary64 := ofRatio (n < 0) n.natAbs 1

/-- The number nearest to a power of ten. -/
def powerOfTen (e : Nat) : Binary64 := ofNat (Nat.pow 10 e)

/-- The product of two finite numbers. -/
def mul (x y : Binary64) : Binary64 :=
  let (n, d) := scaled (x.significand * y.significand) 1 (-(x.exponent + y.exponent))
  ofRatio (x.isNegative != y.isNegative) n d

/-- The quotient of two finite numbers, the second of which is not zero. -/
def div (x y : Binary64) : Binary64 :=
  let (n, d) := scaled x.significand y.significand (-(x.exponent - y.exponent))
  ofRatio (x.isNegative != y.isNegative) n d

/-- The number nearest to `digits * 10 ^ e`. Exponents so large or so small that the answer is
plain are not raised to. -/
def ofDecimal (negative : Bool) (digits : Nat) (e : Int) : Binary64 :=
  let width : Int := (Nat.toDigits 10 digits).length
  if digits = 0 ∨ e + width < -330 then ofMagnitude negative 0
  else if 310 < e + width then infinite negative
  else ofRatio negative (digits * Nat.pow 10 e.toNat) (Nat.pow 10 (-e).toNat)

/-- The integer that is left when the fraction of a finite number is cut off. -/
def truncate (x : Binary64) : Int :=
  let n := x.significand * Nat.pow 2 x.exponent.toNat / Nat.pow 2 (-x.exponent).toNat
  if x.isNegative then -(n : Int) else n

end Binary64

end PayloadModels
