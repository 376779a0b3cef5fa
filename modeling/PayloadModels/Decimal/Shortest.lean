import PayloadModels.Decimal.Binary64

/-!
# Shortest decimals

The fewest decimal digits that still name a binary64 number among all others, and of those the
decimal nearest to it (`Binary64.shortest`). A decimal names a number when it lies in the
interval of reals that round to the number; the ends belong to the interval when the number's
significand is even, because ties round to even.

On each decimal grid only the two neighbours of the number can lie in the interval if any point
does. So the grids are tried from coarse to fine, and the first with a hit has the fewest digits.
-/

namespace PayloadModels.Binary64

/-- A finite magnitude and its interval, measured so that `unit` stands for a power of ten. -/
structure Grid where
  unit : Nat
  value : Nat
  low : Nat
  high : Nat
  closed : Bool

/-- The magnitude on the grid of the multiples of `10 ^ k`. Below a power of two the interval is
half as wide as above it. -/
def grid (x : Binary64) (k : Int) : Grid :=
  let m := x.significand
  let q := x.exponent - 2
  let below := if m = leadingBit ∧ x.exponent ≠ -1074 then 1 else 2
  let scale := Nat.pow 2 q.toNat * Nat.pow 10 (-k).toNat
  { unit := Nat.pow 10 k.toNat * Nat.pow 2 (-q).toNat
    value := 4 * m * scale
    low := (4 * m - below) * scale
    high := (4 * m + 2) * scale
    closed := m % 2 = 0 }

/-- Whether the `d`th point of the grid lies in the interval. -/
def Grid.reaches (g : Grid) (d : Nat) : Bool :=
  let point := d * g.unit
  if g.closed then g.low ≤ point && point ≤ g.high else g.low < point && point < g.high

/-- The nearer of the value's two neighbours on the grid that lie in the interval, the even one
when both are equally near. -/
def Grid.nearest? (g : Grid) : Option Nat :=
  let down := g.value / g.unit
  let twice := 2 * (g.value % g.unit)
  match g.reaches down, g.reaches (down + 1) with
  | true, true =>
    some (if twice < g.unit ∨ (twice = g.unit ∧ down % 2 = 0) then down else down + 1)
  | true, false => some down
  | false, true => some (down + 1)
  | false, false => none

/-- A decimal number, `digits * 10 ^ exponent`. -/
structure Decimal where
  digits : Nat
  exponent : Int
  deriving DecidableEq, Repr

/-- A power of ten at or above the magnitude's leading digit. -/
def leadingPower (x : Binary64) : Int :=
  let (n, d) := scaled x.significand 1 (-x.exponent)
  (Nat.toDigits 10 n).length - (Nat.toDigits 10 d).length

/-- The shortest decimal that names the finite magnitude, and of the shortest ones the nearest.
Seventeen digits name every number, so the search ends. -/
def shortest (x : Binary64) : Decimal :=
  let found := (List.range 20).findSome? fun (i : Nat) =>
    let k := x.leadingPower - i
    (x.grid k).nearest?.map fun digits => (⟨digits, k⟩ : Decimal)
  found.getD ⟨0, 0⟩

end PayloadModels.Binary64
