import Mathlib
import PayloadModels.Decimal.Shortest
import PayloadModels.Proofs.Decimal.Binary64

/-!
# Shortest decimals name their numbers

The points of a grid that lie in the interval of a number are those that the search takes
(`reaches_grid_iff`), for a grid measures the number and its interval by a common factor. A grid
finer than half a unit of the number has such a point just above the number, so the search ends,
and with digits that fit 64 bits (`names_shortest`).
-/

namespace PayloadModels.Binary64

variable {x : Binary64} {d n : Nat} {k : Int} {q : ℚ}

/-! ## Grids -/

/-- What a grid multiplies rational numbers with to have natural ones. -/
def gridFactor (x : Binary64) (k : Int) : ℚ := 10 ^ (-k).toNat * 2 ^ (-(x.exponent - 2)).toNat

/-- The factor that makes a grid whole is positive. -/
theorem gridFactor_pos (x : Binary64) (k : Int) : 0 < x.gridFactor k := by
  unfold gridFactor
  positivity

/-- An integral power is that of its positive part over that of its negative part. -/
theorem pow_toNat_eq (b : ℚ) (hb : b ≠ 0) (e : Int) : b ^ e.toNat = b ^ e * b ^ (-e).toNat := by
  rw [← pow_toNat_div_pow_toNat b hb e, div_mul_cancel₀ _ (pow_ne_zero _ hb)]

/-- The unit of a grid is its power of ten, made whole. -/
theorem grid_unit (x : Binary64) (k : Int) :
    ((x.grid k).unit : ℚ) = 10 ^ k * x.gridFactor k := by
  simp only [grid, gridFactor, Nat.pow_eq, Nat.cast_mul, Nat.cast_pow, Nat.cast_ofNat]
  rw [pow_toNat_eq 10 (by norm_num) k]
  ring

/-- Quarters of units are natural numbers of the grid. -/
theorem cast_mul_scale (x : Binary64) (k : Int) (a : Nat) :
    ((a * (Nat.pow 2 (x.exponent - 2).toNat * Nat.pow 10 (-k).toNat) : Nat) : ℚ)
      = a / 4 * 2 ^ x.exponent * x.gridFactor k := by
  have hquarter : (2 : ℚ) ^ (x.exponent - 2) = 2 ^ x.exponent / 4 := by
    rw [zpow_sub₀ (by norm_num)]
    norm_num
  simp only [gridFactor, Nat.pow_eq, Nat.cast_mul, Nat.cast_pow, Nat.cast_ofNat]
  rw [pow_toNat_eq 2 (by norm_num) (x.exponent - 2), hquarter]
  ring

/-- The value in a grid is that of the number, made whole. -/
theorem grid_value (x : Binary64) (k : Int) :
    ((x.grid k).value : ℚ) = x.value * x.gridFactor k := by
  refine (cast_mul_scale x k (4 * x.significand)).trans ?_
  rw [value]
  push_cast
  ring

/-- The lower end of a grid is that of the quotients that round to the number, made whole. -/
theorem grid_low (hzero : x.isZero = false) (k : Int) : ((x.grid k).low : ℚ)
    = (x.significand - x.gapBelow) * 2 ^ x.exponent * x.gridFactor k := by
  refine (cast_mul_scale x k _).trans ?_
  have hpos := significand_pos hzero
  unfold gapBelow
  split
  · rw [Nat.cast_sub (by omega)]
    push_cast
    ring
  · rw [Nat.cast_sub (by omega)]
    push_cast
    ring

/-- The upper end of a grid is that of the quotients that round to the number, made whole. -/
theorem grid_high (x : Binary64) (k : Int) : ((x.grid k).high : ℚ)
    = (x.significand + 1 / 2) * 2 ^ x.exponent * x.gridFactor k := by
  refine (cast_mul_scale x k _).trans ?_
  push_cast
  ring

/-- A point of a grid is its decimal, made whole. -/
theorem point_eq (x : Binary64) (k : Int) (d : Nat) :
    ((d * (x.grid k).unit : Nat) : ℚ) = d * 10 ^ k * x.gridFactor k := by
  rw [Nat.cast_mul, grid_unit, mul_assoc]

/-- A point of a grid lies in the interval of the number where the search takes it. -/
theorem reaches_grid_iff (hzero : x.isZero = false) :
    (x.grid k).reaches d ↔ x.Names (d * 10 ^ k) := by
  have hfactor := x.gridFactor_pos k
  have hclosed : (x.grid k).closed = decide (x.significand % 2 = 0) := rfl
  have hlow : (x.grid k).low ≤ d * (x.grid k).unit ↔
      (x.significand - x.gapBelow) * 2 ^ x.exponent ≤ d * 10 ^ k := by
    rw [← Nat.cast_le (α := ℚ), grid_low hzero, point_eq, mul_le_mul_iff_left₀ hfactor]
  have hhigh : d * (x.grid k).unit ≤ (x.grid k).high ↔
      (d : ℚ) * 10 ^ k ≤ (x.significand + 1 / 2) * 2 ^ x.exponent := by
    rw [← Nat.cast_le (α := ℚ), grid_high, point_eq, mul_le_mul_iff_left₀ hfactor]
  have hlow' : (x.grid k).low < d * (x.grid k).unit ↔
      (x.significand - x.gapBelow) * 2 ^ x.exponent < d * 10 ^ k := by
    rw [← Nat.cast_lt (α := ℚ), grid_low hzero, point_eq, mul_lt_mul_iff_left₀ hfactor]
  have hhigh' : d * (x.grid k).unit < (x.grid k).high ↔
      (d : ℚ) * 10 ^ k < (x.significand + 1 / 2) * 2 ^ x.exponent := by
    rw [← Nat.cast_lt (α := ℚ), grid_high, point_eq, mul_lt_mul_iff_left₀ hfactor]
  unfold Grid.reaches Names
  rw [hclosed]
  by_cases heven : x.significand % 2 = 0
  · simp [heven, hlow, hhigh]
  · simp [heven, hlow', hhigh']

/-- The points that the search looks at are the neighbours of the number. -/
theorem neighbours (x : Binary64) (k : Int) :
    ((x.grid k).value / (x.grid k).unit : Nat) * (10 : ℚ) ^ k ≤ x.value ∧
      x.value < ((x.grid k).value / (x.grid k).unit + 1 : Nat) * (10 : ℚ) ^ k := by
  have hfactor := x.gridFactor_pos k
  have hunit : 0 < (x.grid k).unit :=
    Nat.mul_pos (Nat.pow_pos (by decide)) (Nat.pow_pos (by decide))
  have hle := Nat.div_mul_le_self (x.grid k).value (x.grid k).unit
  have hlt := Nat.lt_mul_of_div_lt (Nat.lt_succ_self ((x.grid k).value / (x.grid k).unit)) hunit
  rw [← Nat.cast_le (α := ℚ), grid_value, point_eq, mul_le_mul_iff_left₀ hfactor] at hle
  rw [← Nat.cast_lt (α := ℚ), grid_value, point_eq, mul_lt_mul_iff_left₀ hfactor] at hlt
  exact ⟨hle, hlt⟩

/-- The nearest point that is found names the number, and is no more than one point past it. -/
theorem Grid.of_nearest? {g : Grid} (h : g.nearest? = some d) :
    g.reaches d ∧ d ≤ g.value / g.unit + 1 := by
  unfold Grid.nearest? at h
  dsimp only at h
  split at h
  · next hdown hup =>
    cases h
    split
    · exact ⟨hdown, Nat.le_succ _⟩
    · exact ⟨hup, Nat.le_refl _⟩
  · next hdown _ =>
    cases h
    exact ⟨hdown, Nat.le_succ _⟩
  · next _ hup =>
    cases h
    exact ⟨hup, Nat.le_refl _⟩
  · cases h

/-- A nearest point is found when the point past the number names it. -/
theorem Grid.isSome_nearest? {g : Grid} (h : g.reaches (g.value / g.unit + 1)) :
    g.nearest?.isSome := by
  unfold Grid.nearest?
  dsimp only
  rw [h]
  cases g.reaches (g.value / g.unit) <;> rfl

/-! ## The search -/

/-- What lies strictly between the two ends rounds to the number. -/
theorem names_of_lt (hlow : (x.significand - x.gapBelow) * 2 ^ x.exponent < q)
    (hhigh : q < (x.significand + 1 / 2) * 2 ^ x.exponent) : x.Names q := by
  unfold Names
  split
  · exact ⟨hlow.le, hhigh.le⟩
  · exact ⟨hlow, hhigh⟩

/-- A grid finer than half a unit has a point of the interval above the number. -/
theorem isSome_nearest?_grid (hzero : x.isZero = false)
    (hk : (10 : ℚ) ^ k < 1 / 2 * 2 ^ x.exponent) : (x.grid k).nearest?.isSome := by
  obtain ⟨hdown, hup⟩ := x.neighbours k
  have hpow : (0 : ℚ) < 2 ^ x.exponent := by positivity
  have hgap := mul_pos x.gapBelow_pos hpow
  refine Grid.isSome_nearest? ((reaches_grid_iff hzero).2 (names_of_lt ?_ ?_))
  · rw [sub_mul]
    exact (sub_lt_self _ hgap).trans hup
  · rw [add_mul]
    push_cast
    rw [add_mul, one_mul]
    exact add_lt_add_of_le_of_lt hdown hk

/-- The count of the digits of a number tells the powers of ten that it lies between. -/
theorem toDigits_length_bounds (hn : 0 < n) :
    (10 : ℚ) ^ ((Nat.toDigits 10 n).length - 1 : Int) ≤ n ∧
      n < (10 : ℚ) ^ ((Nat.toDigits 10 n).length : Int) := by
  have hpos : 0 < (Nat.toDigits 10 n).length := List.length_pos_of_ne_nil Nat.toDigits_ne_nil
  have hlt : n < 10 ^ (Nat.toDigits 10 n).length :=
    (Nat.length_toDigits_le_iff (by decide) hpos).1 le_rfl
  refine ⟨?_, by rw [zpow_natCast]; exact_mod_cast hlt⟩
  rcases Nat.eq_or_lt_of_le hpos with hone | hmore
  · rw [← hone]
    norm_num
    exact hn
  · have hle : 10 ^ ((Nat.toDigits 10 n).length - 1) ≤ n := by
      by_contra! hlt
      have := (Nat.length_toDigits_le_iff (by decide) (by omega)).2 hlt
      omega
    rw [← Nat.cast_pred hpos, zpow_natCast]
    exact_mod_cast hle

/-- The power of the leading digit is right but for one. -/
theorem leadingPower_bounds (hzero : x.isZero = false) :
    (10 : ℚ) ^ (x.leadingPower - 1) < x.value ∧ x.value < 10 ^ (x.leadingPower + 1) := by
  have hvalue := scaled_div x.significand Nat.one_pos (-x.exponent)
  have hnum : 0 < (scaled x.significand 1 (-x.exponent)).1 :=
    Nat.mul_pos (significand_pos hzero) (Nat.pow_pos (by decide))
  have hden := scaled_snd_pos Nat.one_pos x.significand (-x.exponent)
  obtain ⟨hnumLe, hnumLt⟩ := toDigits_length_bounds hnum
  obtain ⟨hdenLe, hdenLt⟩ := toDigits_length_bounds hden
  have hq : ((scaled x.significand 1 (-x.exponent)).1 : ℚ)
      / (scaled x.significand 1 (-x.exponent)).2 = x.value := by
    rw [hvalue, Nat.cast_one, div_one, zpow_neg, div_inv_eq_mul, value]
  rw [← hq]
  unfold leadingPower
  generalize scaled x.significand 1 (-x.exponent) = parts at *
  dsimp only
  have hpos : (0 : ℚ) < parts.2 := by exact_mod_cast hden
  constructor
  · rw [lt_div_iff₀ hpos]
    refine lt_of_lt_of_le (mul_lt_mul_of_pos_left hdenLt (by positivity)) (le_of_eq_of_le ?_ hnumLe)
    rw [← zpow_add₀ (by norm_num)]
    congr 1
    ring
  · rw [div_lt_iff₀ hpos]
    refine lt_of_lt_of_le (lt_of_lt_of_eq hnumLt ?_)
      (mul_le_mul_of_nonneg_left hdenLe (by positivity))
    rw [← zpow_add₀ (by norm_num)]
    congr 1
    ring

/-- A point of the interval is found at the nineteenth grid at the latest. -/
theorem exists_shortest_eq (hzero : x.isZero = false) : ∃ i : Nat, i < 19 ∧ ∃ digits,
    (x.grid (x.leadingPower - i)).nearest? = some digits ∧
      x.shortest = ⟨digits, x.leadingPower - i⟩ := by
  set search : Nat → Option Decimal := fun i =>
    (x.grid (x.leadingPower - i)).nearest?.map fun digits => ⟨digits, x.leadingPower - i⟩
    with hsearch
  have hfine : (10 : ℚ) ^ (x.leadingPower - (18 : Nat)) < 1 / 2 * 2 ^ x.exponent := by
    have hpow : (0 : ℚ) < 2 ^ x.exponent := by positivity
    have hlead := (leadingPower_bounds hzero).1
    have hsplit : (10 : ℚ) ^ (x.leadingPower - 1)
        = 10 ^ 17 * 10 ^ (x.leadingPower - (18 : Nat)) := by
      rw [← zpow_natCast, ← zpow_add₀ (by norm_num)]
      congr 1
      push_cast
      ring
    have hm : (x.significand : ℚ) < 2 ^ 53 := by exact_mod_cast x.significand_lt
    have hvalue : x.value < 2 ^ 53 * 2 ^ x.exponent := mul_lt_mul_of_pos_right hm hpow
    rw [hsplit] at hlead
    generalize (10 : ℚ) ^ (x.leadingPower - (18 : Nat)) = t at hlead ⊢
    linarith
  have hlast : (search 18).isSome := by
    rw [hsearch, Option.isSome_map]
    exact isSome_nearest?_grid hzero hfine
  obtain ⟨found, hfound⟩ : ∃ found, (List.range 19).findSome? search = some found := by
    rw [← Option.isSome_iff_exists, List.findSome?_isSome_iff]
    exact ⟨18, List.mem_range.2 (by decide), hlast⟩
  obtain ⟨i, hi, hat⟩ := List.exists_of_findSome?_eq_some hfound
  obtain ⟨digits, hdigits, rfl⟩ := Option.map_eq_some_iff.1 hat
  refine ⟨i, List.mem_range.1 hi, digits, hdigits, ?_⟩
  have hall : (List.range 20).findSome? search = some ⟨digits, x.leadingPower - i⟩ := by
    rw [List.range_succ, List.findSome?_append, hfound]
    rfl
  change ((List.range 20).findSome? search).getD ⟨0, 0⟩ = _
  rw [hall]
  rfl

/-- The shortest decimal of a number lies in the number's interval, and its digits fit 64 bits. -/
theorem names_shortest (hzero : x.isZero = false) :
    x.Names (x.shortest.digits * 10 ^ x.shortest.exponent) ∧ x.shortest.digits ≤ 10 ^ 19 := by
  obtain ⟨i, hi, digits, hdigits, hshortest⟩ := exists_shortest_eq hzero
  obtain ⟨hreaches, hle⟩ := Grid.of_nearest? hdigits
  rw [hshortest]
  refine ⟨(reaches_grid_iff hzero).1 hreaches, ?_⟩
  by_contra! hlt
  have hdown : 10 ^ 19 ≤ (x.grid (x.leadingPower - i)).value / (x.grid (x.leadingPower - i)).unit :=
    Nat.le_of_lt_succ (hlt.trans_le hle)
  have hdown : (10 : ℚ) ^ 19
      ≤ ((x.grid (x.leadingPower - i)).value / (x.grid (x.leadingPower - i)).unit : Nat) := by
    exact_mod_cast hdown
  obtain ⟨hvalue, -⟩ := x.neighbours (x.leadingPower - i)
  have hlead := (leadingPower_bounds hzero).2
  have hpow : (10 : ℚ) ^ (x.leadingPower + 1) ≤ 10 ^ 19 * 10 ^ (x.leadingPower - i) := by
    rw [← zpow_natCast, ← zpow_add₀ (by norm_num)]
    exact zpow_le_zpow_right₀ (by norm_num) (by push_cast; omega)
  have hpos : (0 : ℚ) < 10 ^ (x.leadingPower - i) := by positivity
  have hmul := mul_le_mul_of_nonneg_right hdown hpos.le
  linarith

end PayloadModels.Binary64
