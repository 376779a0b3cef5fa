import Mathlib
import PayloadModels.Decimal.Binary64

/-!
# Rounding to binary64

The magnitude of a finite number is its significand in its unit (`Binary64.value`). A quotient is
rounded in the unit in which it has 53 digits before the point, or fewer in the least unit
(`IsUnitOf`), and there to the nearest natural number (`IsNearest`). Both are unique, which makes a
rounding known from the quotient alone, however it is written (`ofRatio_eq`): a quotient in the
interval of a number rounds to the number (`ofRatio_of_names`).
-/

namespace PayloadModels.Binary64

variable {x y z : Binary64} {negative : Bool} {num den m m' n d k : Nat} {e e' : Int} {q : ℚ}

/-! ## Bits -/

/-- The bits of a number are its sign above its magnitude. -/
theorem toNat_ofMagnitude (h : m < signBit) :
    (ofMagnitude negative m).bits.toNat = (if negative then signBit else 0) + m := by
  rw [ofMagnitude, UInt64.toNat_ofNat']
  refine Nat.mod_eq_of_lt ?_
  unfold signBit at h ⊢
  split <;> omega

/-- A number has the magnitude it is made of. -/
theorem magnitude_ofMagnitude (h : m < signBit) : (ofMagnitude negative m).magnitude = m := by
  rw [magnitude, toNat_ofMagnitude h]
  unfold signBit at h ⊢
  split <;> omega

/-- A number has the sign it is made of. -/
theorem isNegative_ofMagnitude (h : m < signBit) :
    (ofMagnitude negative m).isNegative = negative := by
  rw [isNegative, toNat_ofMagnitude h]
  cases negative with
  | false => simpa using h
  | true => simp

/-- A number is its sign and its magnitude. -/
theorem ofMagnitude_magnitude (x : Binary64) : ofMagnitude x.isNegative x.magnitude = x := by
  have hbits : x.bits.toNat < 2 ^ 64 := x.bits.toNat_lt
  have hmagnitude : x.magnitude < signBit := Nat.mod_lt _ (by decide)
  have htoNat : (ofMagnitude x.isNegative x.magnitude).bits.toNat = x.bits.toNat := by
    rw [toNat_ofMagnitude hmagnitude, isNegative, magnitude]
    unfold signBit
    simp only [decide_eq_true_eq]
    split <;> omega
  cases x with
  | mk bits => exact congrArg Binary64.mk (UInt64.toNat_inj.1 htoNat)

/-- The magnitudes of finite numbers leave room for the sign. -/
theorem lt_signBit_of_lt_infiniteBits (h : m < infiniteBits) : m < signBit := by
  unfold infiniteBits at h
  unfold signBit
  omega

/-- The finite numbers are those below infinity. -/
theorem isFinite_iff : x.isFinite ↔ x.magnitude < infiniteBits := decide_eq_true_iff

/-- Other than zero are the numbers with a magnitude. -/
theorem isZero_eq_false_iff : x.isZero = false ↔ x.magnitude ≠ 0 := decide_eq_false_iff_not

/-- A number made of a magnitude below infinity is finite. -/
theorem isFinite_ofMagnitude (h : m < infiniteBits) : (ofMagnitude negative m).isFinite := by
  rwa [isFinite_iff, magnitude_ofMagnitude (lt_signBit_of_lt_infiniteBits h)]

/-- A finite number is not infinite. -/
theorem isInfinite_eq_false (h : x.isFinite) : x.isInfinite = false :=
  decide_eq_false (isFinite_iff.1 h).ne

/-! ## Magnitudes as rational numbers -/

/-- The magnitude of a finite number. -/
def value (x : Binary64) : ℚ := x.significand * 2 ^ x.exponent

/-- A significand has 53 binary digits at most. -/
theorem significand_lt (x : Binary64) : x.significand < 2 ^ 53 := by
  unfold significand leadingBit
  split <;> omega

/-- No unit is less than the least one. -/
theorem least_le_exponent (x : Binary64) : -1074 ≤ x.exponent := by
  unfold exponent leadingBit
  split <;> omega

/-- Only in the least unit does a significand have fewer than 53 digits. -/
theorem exponent_eq_or_le_significand (x : Binary64) :
    x.exponent = -1074 ∨ 2 ^ 52 ≤ x.significand := by
  unfold exponent significand leadingBit
  split <;> omega

/-- No finite number has a unit above the greatest one. -/
theorem exponent_le (h : x.isFinite) : x.exponent ≤ 971 := by
  rw [isFinite_iff] at h
  unfold infiniteBits at h
  unfold exponent leadingBit
  split <;> omega

/-- The bits of a magnitude, from its unit and its significand. -/
theorem magnitude_eq (x : Binary64) :
    x.magnitude = (x.exponent + 1074).toNat * leadingBit + x.significand := by
  unfold exponent significand leadingBit
  split <;> omega

/-- Only zero has no digits. -/
theorem significand_pos (h : x.isZero = false) : 0 < x.significand := by
  rw [isZero_eq_false_iff] at h
  unfold significand leadingBit
  split <;> omega

/-! ## Units -/

/-- The power of two is the unit in which a quotient is rounded. -/
structure IsUnitOf (e : Int) (q : ℚ) : Prop where
  least_le : -1074 ≤ e
  lt : q < 2 ^ 53 * 2 ^ e
  eq_or_le : e = -1074 ∨ 2 ^ 52 * 2 ^ e ≤ q

/-- A unit of a quotient is no greater than another. -/
theorem IsUnitOf.le (h : IsUnitOf e q) (h' : IsUnitOf e' q) : e' ≤ e := by
  by_contra! hlt
  rcases h'.eq_or_le with heq | hle
  · have := h.least_le
    omega
  · have hpow : (2 : ℚ) ^ (e + 1) ≤ 2 ^ e' := zpow_le_zpow_right₀ (by norm_num) (by omega)
    rw [zpow_add_one₀ (by norm_num)] at hpow
    have hq := h.lt
    linarith

/-- A quotient has one unit. -/
theorem IsUnitOf.unique (h : IsUnitOf e q) (h' : IsUnitOf e' q) : e = e' :=
  le_antisymm (h'.le h) (h.le h')

/-- Scaling a quotient leaves it a denominator. -/
theorem scaled_snd_pos (hden : 0 < den) (num : Nat) (e : Int) : 0 < (scaled num den e).2 :=
  Nat.mul_pos hden (Nat.pow_pos (by decide))

/-- The parts of a power, of which one is an inverse. -/
theorem pow_toNat_div_pow_toNat (b : ℚ) (hb : b ≠ 0) (e : Int) :
    b ^ e.toNat / b ^ (-e).toNat = b ^ e := by
  rw [← zpow_natCast, ← zpow_natCast, ← zpow_sub₀ hb]
  congr 1
  omega

/-- A scaled quotient is the quotient in the unit. -/
theorem scaled_div (num : Nat) (hden : 0 < den) (e : Int) :
    ((scaled num den e).1 : ℚ) / (scaled num den e).2 = num / den / 2 ^ e := by
  have hpow := pow_toNat_div_pow_toNat 2 (by norm_num) e
  simp only [scaled, Nat.pow_eq, Nat.cast_mul, Nat.cast_pow, Nat.cast_ofNat]
  rw [← hpow]
  have hdenq : (den : ℚ) ≠ 0 := by positivity
  field_simp

/-- A natural number lies between two powers of two that are neighbours. -/
theorem log2_bounds (hn : 0 < n) :
    (2 : ℚ) ^ (n.log2 : Int) ≤ n ∧ n < (2 : ℚ) ^ ((n.log2 : Int) + 1) := by
  have hle : 2 ^ n.log2 ≤ n := Nat.log2_self_le hn.ne'
  have hlt : n < 2 ^ (n.log2 + 1) := Nat.lt_log2_self
  refine ⟨?_, ?_⟩
  · rw [zpow_natCast]
    exact_mod_cast hle
  · have hcast : ((n.log2 : Int) + 1) = ((n.log2 + 1 : Nat) : Int) := by push_cast; rfl
    rw [hcast, zpow_natCast]
    exact_mod_cast hlt

/-- A power of two below which the quotient has 53 digits is its unit, or is below its unit. -/
theorem isUnitOf_max (hle : 2 ^ 52 * 2 ^ e ≤ q) (hlt : q < 2 ^ 53 * 2 ^ e) :
    IsUnitOf (max e (-1074)) q := by
  rcases le_total (-1074) e with he | he
  · rw [max_eq_left he]
    exact ⟨he, hlt, .inr hle⟩
  · rw [max_eq_right he]
    have hpow : (2 : ℚ) ^ e ≤ 2 ^ (-1074 : Int) := zpow_le_zpow_right₀ (by norm_num) he
    exact ⟨le_rfl, by linarith, .inl rfl⟩

/-- The lengths of the parts of a quotient tell its number of digits, up to one. -/
theorem div_bounds (hnum : 0 < num) (hden : 0 < den)
    (he : e = (num.log2 : Int) - den.log2 - 52) :
    (2 : ℚ) ^ 51 * 2 ^ e ≤ num / den ∧ (num : ℚ) / den < 2 ^ 53 * 2 ^ e := by
  obtain ⟨hnumLe, hnumLt⟩ := log2_bounds hnum
  obtain ⟨hdenLe, hdenLt⟩ := log2_bounds hden
  have hdenq : (0 : ℚ) < den := by exact_mod_cast hden
  rw [le_div_iff₀ hdenq, div_lt_iff₀ hdenq]
  constructor
  · calc (2 : ℚ) ^ 51 * 2 ^ e * den
        ≤ 2 ^ 51 * 2 ^ e * 2 ^ ((den.log2 : Int) + 1) := by gcongr
      _ = 2 ^ (num.log2 : Int) := by
          rw [← zpow_natCast, ← zpow_add₀ (by norm_num), ← zpow_add₀ (by norm_num)]
          congr 1
          push_cast
          omega
      _ ≤ num := hnumLe
  · calc (num : ℚ) < 2 ^ ((num.log2 : Int) + 1) := hnumLt
      _ = 2 ^ 53 * 2 ^ e * 2 ^ (den.log2 : Int) := by
          rw [← zpow_natCast, ← zpow_add₀ (by norm_num), ← zpow_add₀ (by norm_num)]
          congr 1
          push_cast
          omega
      _ ≤ 2 ^ 53 * 2 ^ e * den := by gcongr

/-- The unit is found from the lengths of the parts of a quotient. -/
theorem isUnitOf_unitExponent (hnum : 0 < num) (hden : 0 < den) :
    IsUnitOf (unitExponent num den) (num / den) := by
  unfold unitExponent
  set e : Int := (num.log2 : Int) - den.log2 - 52 with he
  obtain ⟨hlow, hhigh⟩ := div_bounds hnum hden he
  have hscaled := scaled_div num hden e
  have hdq : (0 : ℚ) < (scaled num den e).2 := by exact_mod_cast scaled_snd_pos hden num e
  have hpow : (0 : ℚ) < 2 ^ e := by positivity
  -- the quotient holds fewer than `2 ^ 52` units exactly when the unit is too great
  have hbelow : (scaled num den e).1 < (scaled num den e).2 * leadingBit ↔
      (num : ℚ) / den < 2 ^ 52 * 2 ^ e := by
    rw [← div_lt_iff₀ hpow, ← hscaled, div_lt_iff₀ hdq, ← Nat.cast_lt (α := ℚ)]
    push_cast [leadingBit]
    norm_num [mul_comm]
  dsimp only
  split
  · next hlt =>
    refine isUnitOf_max ?_ ?_
    · rw [zpow_sub_one₀ (by norm_num)]
      linarith
    · rw [zpow_sub_one₀ (by norm_num)]
      have := hbelow.1 hlt
      linarith
  · next hlt =>
    exact isUnitOf_max (not_lt.1 (mt hbelow.2 hlt)) hhigh

/-! ## Nearest natural numbers -/

/-- The natural number is the nearest to a rational one; of two that are equally near, the even
one. -/
def IsNearest (m : Nat) (q : ℚ) : Prop := |q - m| < 1 / 2 ∨ |q - m| = 1 / 2 ∧ m % 2 = 0

/-- The nearest natural number is at most a half away. -/
theorem IsNearest.abs_sub_le (h : IsNearest m q) : |q - m| ≤ 1 / 2 := by
  rcases h with h | ⟨h, -⟩
  · exact h.le
  · exact h.le

/-- Of two nearest natural numbers, the one is no greater than the other. -/
theorem IsNearest.le (h : IsNearest m q) (h' : IsNearest m' q) : m ≤ m' := by
  by_contra! hlt
  have hgap : (m' : ℚ) + 1 ≤ m := by exact_mod_cast hlt
  obtain ⟨hlow, hhigh⟩ := abs_le.1 h.abs_sub_le
  obtain ⟨hlow', hhigh'⟩ := abs_le.1 h'.abs_sub_le
  have hnext : (m : ℚ) = m' + 1 := by linarith
  have hparity : m = m' + 1 := by exact_mod_cast hnext
  have htie : |q - m| = 1 / 2 := by
    rw [abs_of_nonpos] <;> linarith
  have htie' : |q - m'| = 1 / 2 := by
    rw [abs_of_nonneg] <;> linarith
  have heven := h.resolve_left htie.not_lt
  have heven' := h'.resolve_left htie'.not_lt
  omega

/-- One natural number is nearest, since a tie goes to the even one. -/
theorem IsNearest.unique (h : IsNearest m q) (h' : IsNearest m' q) : m = m' :=
  le_antisymm (h.le h') (h'.le h)

/-- A natural number is the nearest to itself. -/
theorem isNearest_natCast (m : Nat) : IsNearest m m := .inl (by norm_num)

/-- Rounding halves to even gives the nearest natural number. -/
theorem isNearest_roundHalfEven (hd : 0 < d) : IsNearest (roundHalfEven n d) (n / d) := by
  have hdq : (0 : ℚ) < d := by exact_mod_cast hd
  have hdiv : (n : ℚ) / d = (n / d : Nat) + (n % d : Nat) / d := by
    rw [div_eq_iff hdq.ne', add_mul, div_mul_cancel₀ _ hdq.ne']
    exact_mod_cast (Nat.div_add_mod' n d).symm
  have hpos : (0 : ℚ) ≤ (n % d : Nat) / d := by positivity
  have hone : ((n % d : Nat) : ℚ) / d < 1 := by
    rw [div_lt_one hdq]
    exact_mod_cast Nat.mod_lt n hd
  rw [IsNearest, hdiv]
  rcases lt_trichotomy (2 * (n % d)) d with hlt | heq | hgt
  · have hround : roundHalfEven n d = n / d := if_neg (by omega)
    have hrest : ((n % d : Nat) : ℚ) / d < 1 / 2 := by
      rw [div_lt_iff₀ hdq]
      have hlt : (2 : ℚ) * (n % d : Nat) < d := by exact_mod_cast hlt
      linarith
    rw [hround, add_sub_cancel_left, abs_of_nonneg hpos]
    exact .inl hrest
  · have hrest : ((n % d : Nat) : ℚ) / d = 1 / 2 := by
      rw [div_eq_iff hdq.ne']
      have heq : (2 : ℚ) * (n % d : Nat) = d := by exact_mod_cast heq
      linarith
    rcases Nat.mod_two_eq_zero_or_one (n / d) with heven | hodd
    · have hround : roundHalfEven n d = n / d := if_neg (by omega)
      rw [hround, add_sub_cancel_left, abs_of_nonneg hpos]
      exact .inr ⟨hrest, heven⟩
    · have hround : roundHalfEven n d = n / d + 1 := if_pos (.inr ⟨heq, hodd⟩)
      refine .inr ⟨?_, by omega⟩
      rw [hround, hrest, Nat.cast_add_one, abs_of_nonpos (by linarith)]
      ring
  · have hround : roundHalfEven n d = n / d + 1 := if_pos (.inl hgt)
    have hrest : 1 / 2 < ((n % d : Nat) : ℚ) / d := by
      rw [lt_div_iff₀ hdq]
      have hgt : (d : ℚ) < 2 * (n % d : Nat) := by exact_mod_cast hgt
      linarith
    rw [hround, Nat.cast_add_one]
    refine .inl ?_
    rw [abs_of_nonpos] <;> linarith

/-! ## Rounding quotients -/

/-- A positive quotient has a positive numerator. -/
theorem num_pos (hq : 0 < (num : ℚ) / den) : 0 < num := by
  rcases Nat.eq_zero_or_pos num with rfl | hnum
  · simp at hq
  · exact hnum

/-- A quotient is rounded in its unit to the nearest natural number. -/
theorem ofRatio_eq (hnum : 0 < num) (hden : 0 < den) (he : IsUnitOf e (num / den))
    (hm : IsNearest m (num / den / 2 ^ e)) : ofRatio negative num den
      = ofMagnitude negative (min ((e + 1074).toNat * leadingBit + m) infiniteBits) := by
  obtain rfl : unitExponent num den = e := (isUnitOf_unitExponent hnum hden).unique he
  have hround : IsNearest (roundHalfEven (scaled num den (unitExponent num den)).1
      (scaled num den (unitExponent num den)).2) (num / den / 2 ^ unitExponent num den) := by
    rw [← scaled_div num hden]
    exact isNearest_roundHalfEven (scaled_snd_pos hden num _)
  rw [ofRatio, if_neg hnum.ne', ← hround.unique hm]

/-- What holds so many units has their bits; when they carry, they are half as many in the next
unit. -/
theorem value_ofMagnitude (hm : m ≤ 2 ^ 53) (he : -1074 ≤ e) (hfull : e = -1074 ∨ 2 ^ 52 ≤ m)
    (hfinite : (e + 1074).toNat * leadingBit + m < infiniteBits) :
    (ofMagnitude negative ((e + 1074).toNat * leadingBit + m)).value = m * 2 ^ e := by
  have hmagnitude : (ofMagnitude negative ((e + 1074).toNat * leadingBit + m)).magnitude
      = (e + 1074).toNat * leadingBit + m :=
    magnitude_ofMagnitude (lt_signBit_of_lt_infiniteBits hfinite)
  rw [value, significand, exponent, hmagnitude]
  obtain ⟨k, hk⟩ : ∃ k : Nat, e + 1074 = k := ⟨(e + 1074).toNat, by omega⟩
  obtain rfl : e = k - 1074 := by omega
  have htoNat : ((k : Int) - 1074 + 1074).toNat = k := by omega
  rw [htoNat]
  unfold leadingBit
  rcases lt_or_ge m (2 ^ 52) with hshort | hlong
  · obtain rfl : k = 0 := by omega
    have hlt : 0 * 0x10000000000000 + m < 0x10000000000000 := by omega
    rw [if_pos hlt, if_pos hlt, Nat.zero_mul, Nat.zero_add]
    rfl
  · have hge : ¬ k * 0x10000000000000 + m < 0x10000000000000 := by omega
    rw [if_neg hge, if_neg hge]
    rcases hm.lt_or_eq with hlt | rfl
    · have hsignificand : 0x10000000000000 + (k * 0x10000000000000 + m) % 0x10000000000000 = m := by
        omega
      have hexponent : (((k * 0x10000000000000 + m) / 0x10000000000000 : Nat) : Int) - 1075
          = k - 1074 := by omega
      rw [hsignificand, hexponent]
    · have hsignificand : 0x10000000000000 + (k * 0x10000000000000 + 2 ^ 53) % 0x10000000000000
          = 2 ^ 52 := by omega
      have hexponent : (((k * 0x10000000000000 + 2 ^ 53) / 0x10000000000000 : Nat) : Int) - 1075
          = k - 1074 + 1 := by omega
      rw [hsignificand, hexponent, zpow_add_one₀ (by norm_num)]
      push_cast
      ring

/-- What is rounded to infinity begins here. -/
def overflow : ℚ := (2 ^ 53 - 1 / 2) * 2 ^ (971 : Int)

/-- Rounding a number of 53 digits at most goes up to the first one of 54 at most. -/
theorem IsNearest.le_of_lt (h : IsNearest m q) (hq : q < 2 ^ 53) : m ≤ 2 ^ 53 := by
  obtain ⟨hlow, -⟩ := abs_le.1 h.abs_sub_le
  have hlt : (m : ℚ) < (2 ^ 53 + 1 : Nat) := by
    push_cast
    linarith
  have hlt : m < 2 ^ 53 + 1 := by exact_mod_cast hlt
  omega

/-- Rounding a number of 53 digits keeps these. -/
theorem IsNearest.le_of_ge (h : IsNearest m q) (hq : 2 ^ 52 ≤ q) : 2 ^ 52 ≤ m := by
  obtain ⟨-, hhigh⟩ := abs_le.1 h.abs_sub_le
  by_contra! hlt
  have hle : m + 1 ≤ 2 ^ 52 := hlt
  have hle : (m : ℚ) + 1 ≤ 2 ^ 52 := by exact_mod_cast hle
  linarith

/-- A quotient below the overflow is rounded to a finite number. -/
theorem lt_infiniteBits (he : IsUnitOf e q) (hm : IsNearest m (q / 2 ^ e)) (hq : q < overflow) :
    (e + 1074).toNat * leadingBit + m < infiniteBits := by
  have hpow : (0 : ℚ) < 2 ^ e := by positivity
  have hle : m ≤ 2 ^ 53 := hm.le_of_lt (by rw [div_lt_iff₀ hpow]; exact he.lt)
  have heLe : e ≤ 971 := by
    by_contra! hlt
    have hgrow : (2 : ℚ) ^ (972 : Int) ≤ 2 ^ e := zpow_le_zpow_right₀ (by norm_num) (by omega)
    have hfull := he.eq_or_le.resolve_left (by omega)
    have hhalf : (2 : ℚ) ^ (972 : Int) = 2 ^ (971 : Int) * 2 := zpow_add_one₀ (by norm_num) 971
    have hbound : (0 : ℚ) < 2 ^ (971 : Int) := by positivity
    rw [overflow] at hq
    rw [hhalf] at hgrow
    generalize (2 : ℚ) ^ (971 : Int) = top at hq hgrow hbound
    linarith
  have hleast := he.least_le
  rcases heLe.lt_or_eq with hlt | rfl
  · unfold leadingBit infiniteBits
    omega
  · have hm : m < 2 ^ 53 := by
      obtain ⟨hlow, -⟩ := abs_le.1 hm.abs_sub_le
      rw [overflow, ← div_lt_iff₀ hpow] at hq
      have hlt : (m : ℚ) < 2 ^ 53 := by linarith
      exact_mod_cast hlt
    unfold leadingBit infiniteBits
    omega

/-- A quotient below the overflow is rounded to the nearest number of its units. -/
theorem ofRatio_spec (negative : Bool) (hnum : 0 < num) (hden : 0 < den)
    (hq : (num : ℚ) / den < overflow) :
    ∃ e m, IsUnitOf e (num / den) ∧ IsNearest m (num / den / 2 ^ e) ∧
      (ofRatio negative num den).isFinite ∧ (ofRatio negative num den).isNegative = negative ∧
      (ofRatio negative num den).value = m * 2 ^ e := by
  have he := isUnitOf_unitExponent hnum hden
  generalize unitExponent num den = e at he
  obtain ⟨m, hm⟩ : ∃ m, IsNearest m ((num : ℚ) / den / 2 ^ e) := by
    rw [← scaled_div num hden]
    exact ⟨_, isNearest_roundHalfEven (scaled_snd_pos hden num e)⟩
  have hlt := lt_infiniteBits he hm hq
  have hsign := lt_signBit_of_lt_infiniteBits hlt
  have hpow : (0 : ℚ) < 2 ^ e := by positivity
  have hle : m ≤ 2 ^ 53 := hm.le_of_lt (by rw [div_lt_iff₀ hpow]; exact he.lt)
  have hfull : e = -1074 ∨ 2 ^ 52 ≤ m :=
    he.eq_or_le.imp_right fun h => hm.le_of_ge (by rw [le_div_iff₀ hpow]; exact h)
  refine ⟨e, m, he, hm, ?_⟩
  rw [ofRatio_eq hnum hden he hm, min_eq_left hlt.le]
  exact ⟨isFinite_ofMagnitude hlt, isNegative_ofMagnitude hsign,
    value_ofMagnitude hle he.least_le hfull hlt⟩

/-- A quotient that is a number of units of a binary64 number is the value it is rounded to. -/
theorem value_ofRatio_of_eq (negative : Bool) (hnum : 0 < num) (hden : 0 < den) (hm : m < 2 ^ 53)
    (hleast : -1074 ≤ e) (he : e ≤ 971) (hq : (num : ℚ) / den = m * 2 ^ e) :
    (ofRatio negative num den).isFinite ∧ (ofRatio negative num den).isNegative = negative ∧
      (ofRatio negative num den).value = num / den := by
  have hmq : (m : ℚ) + 1 ≤ 2 ^ 53 := by exact_mod_cast hm
  have hbound : (num : ℚ) / den < overflow := by
    have hpow : (2 : ℚ) ^ e ≤ 2 ^ (971 : Int) := zpow_le_zpow_right₀ (by norm_num) he
    have hpos : (0 : ℚ) < 2 ^ (971 : Int) := by positivity
    rw [hq, overflow]
    generalize (2 : ℚ) ^ (971 : Int) = top at hpow hpos
    calc (m : ℚ) * 2 ^ e ≤ m * top := by gcongr
      _ < (2 ^ 53 - 1 / 2) * top := by
          gcongr
          linarith
  obtain ⟨e', m', he', hm', hfinite, hnegative, hvalue⟩ := ofRatio_spec negative hnum hden hbound
  refine ⟨hfinite, hnegative, ?_⟩
  have hunits : e' ≤ e := by
    rcases he'.eq_or_le with heq | hle
    · omega
    · by_contra! hlt
      have hpow : (2 : ℚ) ^ (e + 1) ≤ 2 ^ e' := zpow_le_zpow_right₀ (by norm_num) (by omega)
      rw [zpow_add_one₀ (by norm_num)] at hpow
      rw [hq] at hle
      have hpos : (0 : ℚ) < 2 ^ e := by positivity
      nlinarith
  obtain ⟨k, rfl⟩ : ∃ k : Nat, e = e' + k := ⟨(e - e').toNat, by omega⟩
  have hexact : (num : ℚ) / den / 2 ^ e' = (m * 2 ^ k : Nat) := by
    rw [hq, zpow_add₀ (by norm_num), zpow_natCast]
    push_cast
    field_simp
  rw [hexact] at hm'
  obtain rfl := hm'.unique (isNearest_natCast _)
  rw [hvalue, ← hexact]
  field_simp

/-! ## Intervals -/

/-- How far below its value the interval of a number reaches, in units. Below a power of two the
units are half as great. -/
def gapBelow (x : Binary64) : ℚ :=
  if x.significand = leadingBit ∧ x.exponent ≠ -1074 then 1 / 4 else 1 / 2

/-- The rational number lies in the interval of those that are rounded to the magnitude. The ends
belong to it when the significand is even. -/
def Names (x : Binary64) (q : ℚ) : Prop :=
  if x.significand % 2 = 0 then
    (x.significand - x.gapBelow) * 2 ^ x.exponent ≤ q ∧ q ≤ (x.significand + 1 / 2) * 2 ^ x.exponent
  else
    (x.significand - x.gapBelow) * 2 ^ x.exponent < q ∧ q < (x.significand + 1 / 2) * 2 ^ x.exponent

/-- Below every number there is room for quotients that round to it. -/
theorem gapBelow_pos (x : Binary64) : 0 < x.gapBelow := by
  unfold gapBelow
  split <;> norm_num

/-- Below a number there is at most as much room as above. -/
theorem gapBelow_le (x : Binary64) : x.gapBelow ≤ 1 / 2 := by
  unfold gapBelow
  split <;> norm_num

/-- What rounds to a number is not below the number's gap. -/
theorem Names.le (h : x.Names q) : (x.significand - x.gapBelow) * 2 ^ x.exponent ≤ q := by
  unfold Names at h
  split at h
  · exact h.1
  · exact h.1.le

/-- What rounds to a number is at most half a unit above it. -/
theorem Names.ge (h : x.Names q) : q ≤ (x.significand + 1 / 2) * 2 ^ x.exponent := by
  unfold Names at h
  split at h
  · exact h.2
  · exact h.2.le

/-- In units the significand is the nearest to a number of the interval, unless that number lies
below a power of two. -/
theorem Names.isNearest (h : x.Names q) : IsNearest x.significand (q / 2 ^ x.exponent) := by
  have hpow : (0 : ℚ) < 2 ^ x.exponent := by positivity
  have hgap := x.gapBelow_le
  unfold Names at h
  unfold IsNearest
  split at h
  · next heven =>
    obtain ⟨hlow, hhigh⟩ := h
    rw [← le_div_iff₀ hpow] at hlow
    rw [← div_le_iff₀ hpow] at hhigh
    have hle : |q / 2 ^ x.exponent - x.significand| ≤ 1 / 2 := abs_le.2 ⟨by linarith, by linarith⟩
    exact hle.lt_or_eq.imp_right fun heq => ⟨heq, heven⟩
  · obtain ⟨hlow, hhigh⟩ := h
    rw [← lt_div_iff₀ hpow] at hlow
    rw [← div_lt_iff₀ hpow] at hhigh
    exact .inl (abs_lt.2 ⟨by linarith, by linarith⟩)

/-- What rounds to a number other than zero is positive. -/
theorem Names.pos (h : x.Names q) (hzero : x.isZero = false) : 0 < q := by
  have hle := h.le
  have hgap := x.gapBelow_le
  have hone : (1 : ℚ) ≤ x.significand := by exact_mod_cast significand_pos hzero
  have hpow : (0 : ℚ) < 2 ^ x.exponent := by positivity
  have hpos : 0 < (x.significand - x.gapBelow) * 2 ^ x.exponent :=
    mul_pos (by linarith) hpow
  linarith

/-- The interval of a finite number other than zero lies between two powers of ten. -/
theorem Names.bounds (hfinite : x.isFinite) (hzero : x.isZero = false) (h : x.Names q) :
    (10 : ℚ) ^ (-1075 : Int) ≤ q ∧ q < 10 ^ (1024 : Int) := by
  have hgap := x.gapBelow_le
  have hone : (1 : ℚ) ≤ x.significand := by exact_mod_cast significand_pos hzero
  have hm : (x.significand : ℚ) + 1 ≤ 2 ^ 53 := by exact_mod_cast x.significand_lt
  have hleast : (2 : ℚ) ^ (-1074 : Int) ≤ 2 ^ x.exponent :=
    zpow_le_zpow_right₀ (by norm_num) x.least_le_exponent
  have hgreatest : (2 : ℚ) ^ x.exponent ≤ 2 ^ (971 : Int) :=
    zpow_le_zpow_right₀ (by norm_num) (exponent_le hfinite)
  have hpow : (0 : ℚ) < 2 ^ x.exponent := by positivity
  have htwo : (2 : ℚ) ≤ 10 := by norm_num
  constructor
  · calc (10 : ℚ) ^ (-1075 : Int) ≤ 2 ^ (-1075 : Int) := by
          rw [zpow_neg, zpow_neg]
          exact inv_anti₀ (by positivity) (zpow_le_zpow_left₀ (by decide) (by norm_num) htwo)
      _ = 2 ^ (-1074 : Int) * (1 / 2) := by
          rw [one_div, ← zpow_sub_one₀ (by norm_num)]
          rfl
      _ ≤ 2 ^ x.exponent * (1 / 2) := mul_le_mul_of_nonneg_right hleast (by norm_num)
      _ ≤ (x.significand - x.gapBelow) * 2 ^ x.exponent := by
          rw [mul_comm]
          exact mul_le_mul_of_nonneg_right (by linarith) hpow.le
      _ ≤ q := h.le
  · calc q ≤ (x.significand + 1 / 2) * 2 ^ x.exponent := h.ge
      _ < 2 ^ 53 * 2 ^ x.exponent := mul_lt_mul_of_pos_right (by linarith) hpow
      _ ≤ 2 ^ 53 * 2 ^ (971 : Int) := mul_le_mul_of_nonneg_left hgreatest (by positivity)
      _ = 2 ^ (1024 : Int) := by
          rw [← zpow_natCast, ← zpow_add₀ (by norm_num)]
          rfl
      _ ≤ 10 ^ (1024 : Int) := zpow_le_zpow_left₀ (by decide) (by norm_num) htwo

/-- The numbers of the interval are rounded in the number's unit, but for those below a power of
two, which are rounded in the unit below. -/
theorem Names.isUnitOf_or (h : x.Names q) : IsUnitOf x.exponent q ∨
    x.significand = 2 ^ 52 ∧ -1073 ≤ x.exponent ∧ (2 ^ 52 - 1 / 4) * 2 ^ x.exponent ≤ q ∧
      q < 2 ^ 52 * 2 ^ x.exponent := by
  have hpow : (0 : ℚ) < 2 ^ x.exponent := by positivity
  have hleast := x.least_le_exponent
  have hm : (x.significand : ℚ) + 1 ≤ 2 ^ 53 := by exact_mod_cast x.significand_lt
  have hlt : q < 2 ^ 53 * 2 ^ x.exponent := h.ge.trans_lt (by gcongr; linarith)
  by_cases hgap : x.significand = leadingBit ∧ x.exponent ≠ -1074
  · obtain ⟨hsignificand, hexponent⟩ := hgap
    have hlow := h.le
    have hcast : ((leadingBit : Nat) : ℚ) = 2 ^ 52 := by norm_num [leadingBit]
    rw [gapBelow, if_pos ⟨hsignificand, hexponent⟩, hsignificand, hcast] at hlow
    rcases lt_or_ge q (2 ^ 52 * 2 ^ x.exponent) with hbelow | habove
    · exact .inr ⟨hsignificand, by omega, hlow, hbelow⟩
    · exact .inl ⟨hleast, hlt, .inr habove⟩
  · refine .inl ⟨hleast, hlt, ?_⟩
    by_cases hexponent : x.exponent = -1074
    · exact .inl hexponent
    · have hfull := x.exponent_eq_or_le_significand.resolve_left hexponent
      have hne : x.significand ≠ 2 ^ 52 := fun heq => hgap ⟨heq, hexponent⟩
      have hnext : 2 ^ 52 + 1 ≤ x.significand := by omega
      have hnext : (2 : ℚ) ^ 52 + 1 ≤ x.significand := by exact_mod_cast hnext
      have hhalf := x.gapBelow_le
      exact .inr (le_trans (by gcongr; linarith) h.le)

/-- A quotient in the interval of a number is rounded to the magnitude of the number. -/
theorem ofRatio_of_names (hfinite : x.isFinite) (hzero : x.isZero = false) (hden : 0 < den)
    (h : x.Names (num / den)) : ofRatio negative num den = ofMagnitude negative x.magnitude := by
  have hnum := num_pos (h.pos hzero)
  have hmagnitude := isFinite_iff.1 hfinite
  have hbits := x.magnitude_eq
  rcases h.isUnitOf_or with hunit | ⟨hsignificand, hleast, hlow, hhigh⟩
  · rw [ofRatio_eq hnum hden hunit h.isNearest, ← hbits, min_eq_left hmagnitude.le]
  · -- the bits carry into the unit of the number
    have hpow : (0 : ℚ) < 2 ^ (x.exponent - 1) := by positivity
    have htwice : (2 : ℚ) ^ x.exponent = 2 ^ (x.exponent - 1) * 2 := by
      rw [← zpow_add_one₀ (by norm_num), sub_add_cancel]
    rw [htwice] at hlow hhigh
    have hunit : IsUnitOf (x.exponent - 1) (num / den) :=
      ⟨by omega, by linarith, .inr (by linarith)⟩
    have hnearest : IsNearest (2 ^ 53) (num / den / 2 ^ (x.exponent - 1)) := by
      have hle : (2 : ℚ) ^ 53 - 1 / 2 ≤ num / den / 2 ^ (x.exponent - 1) := by
        rw [le_div_iff₀ hpow]
        linarith
      have hlt : (num : ℚ) / den / 2 ^ (x.exponent - 1) < 2 ^ 53 := by
        rw [div_lt_iff₀ hpow]
        linarith
      have habs : |(num : ℚ) / den / 2 ^ (x.exponent - 1) - (2 ^ 53 : Nat)| ≤ 1 / 2 := by
        push_cast
        exact abs_le.2 ⟨by linarith, by linarith⟩
      exact habs.lt_or_eq.imp_right fun heq => ⟨heq, by decide⟩
    have hcarry : (x.exponent - 1 + 1074).toNat * leadingBit + 2 ^ 53 = x.magnitude := by
      rw [hbits, hsignificand]
      unfold leadingBit
      omega
    rw [ofRatio_eq hnum hden hunit hnearest, hcarry, min_eq_left hmagnitude.le]

/-! ## Products and quotients of numbers -/

/-- A number with a positive value is not zero. -/
theorem isZero_eq_false_of_value_pos (h : 0 < x.value) : x.isZero = false := by
  rw [isZero_eq_false_iff]
  intro hmagnitude
  have hvalue : x.value = 0 := by simp [value, significand, hmagnitude, leadingBit]
  exact h.ne' hvalue

/-- The exact product of two numbers is rounded once. -/
theorem exists_mul_eq (x y : Binary64) : ∃ num den : Nat, 0 < den ∧
    (num : ℚ) / den = x.value * y.value ∧
      x.mul y = ofRatio (x.isNegative != y.isNegative) num den := by
  have hdiv := scaled_div (x.significand * y.significand) Nat.one_pos (-(x.exponent + y.exponent))
  refine ⟨_, _, scaled_snd_pos Nat.one_pos (x.significand * y.significand) _, hdiv.trans ?_, rfl⟩
  rw [value, value, zpow_neg, zpow_add₀ (by norm_num)]
  push_cast
  field_simp

/-- The exact quotient of two numbers is rounded once. -/
theorem exists_div_eq (x : Binary64) (hy : y.isZero = false) : ∃ num den : Nat, 0 < den ∧
    (num : ℚ) / den = x.value / y.value ∧
      x.div y = ofRatio (x.isNegative != y.isNegative) num den := by
  have hdiv := scaled_div x.significand (significand_pos hy) (-(x.exponent - y.exponent))
  refine ⟨_, _, scaled_snd_pos (significand_pos hy) x.significand _, hdiv.trans ?_, rfl⟩
  rw [value, value, zpow_neg, zpow_sub₀ (by norm_num)]
  field_simp

/-- A product is the number that the product of the values rounds to, with the signs multiplied. -/
theorem mul_of_names (hfinite : z.isFinite) (hzero : z.isZero = false)
    (h : z.Names (x.value * y.value)) :
    x.mul y = ofMagnitude (x.isNegative != y.isNegative) z.magnitude := by
  obtain ⟨num, den, hden, hq, hmul⟩ := exists_mul_eq x y
  rw [← hq] at h
  rw [hmul, ofRatio_of_names hfinite hzero hden h]

/-- A quotient is the number that the quotient of the values rounds to, with the signs multiplied.
-/
theorem div_of_names (hy : y.isZero = false) (hfinite : z.isFinite) (hzero : z.isZero = false)
    (h : z.Names (x.value / y.value)) :
    x.div y = ofMagnitude (x.isNegative != y.isNegative) z.magnitude := by
  obtain ⟨num, den, hden, hq, hdiv⟩ := exists_div_eq x hy
  rw [← hq] at h
  rw [hdiv, ofRatio_of_names hfinite hzero hden h]

/-- A product is finite when the product of the values does not round beyond the greatest number. -/
theorem isFinite_mul (hpos : 0 < x.value * y.value) (h : x.value * y.value < overflow) :
    (x.mul y).isFinite := by
  obtain ⟨num, den, hden, hq, hmul⟩ := exists_mul_eq x y
  rw [← hq] at hpos h
  obtain ⟨-, -, -, -, hfinite, -⟩ :=
    ofRatio_spec (x.isNegative != y.isNegative) (num_pos hpos) hden h
  rwa [hmul]

/-! ## Natural numbers -/

/-- A natural number of at most 53 bits, times a power of two, is the value it is rounded to. -/
theorem ofNat_spec (hm : 0 < m) (hlt : m < 2 ^ 53) (hk : k ≤ 971) :
    (ofNat (m * 2 ^ k)).isFinite ∧ (ofNat (m * 2 ^ k)).isNegative = false ∧
      (ofNat (m * 2 ^ k)).value = (m * 2 ^ k : Nat) := by
  have hq : ((m * 2 ^ k : Nat) : ℚ) / (1 : Nat) = m * 2 ^ (k : Int) := by
    rw [zpow_natCast]
    push_cast
    ring
  obtain ⟨hfinite, hnegative, hvalue⟩ := value_ofRatio_of_eq false
    (Nat.mul_pos hm (by positivity)) Nat.one_pos hlt (by omega) (by omega) hq
  exact ⟨hfinite, hnegative, by rw [ofNat, hvalue, Nat.cast_one, div_one]⟩

/-- The powers of ten that are binary64 numbers. -/
theorem powerOfTen_spec (hk : k ≤ 22) : (powerOfTen k).isFinite ∧
    (powerOfTen k).isNegative = false ∧ (powerOfTen k).value = 10 ^ k := by
  have hfive : 5 ^ k < 2 ^ 53 :=
    (Nat.pow_le_pow_right (by decide) hk).trans_lt (by decide)
  have hten : Nat.pow 10 k = 5 ^ k * 2 ^ k := by rw [← Nat.mul_pow, Nat.pow_eq]
  obtain ⟨hfinite, hnegative, hvalue⟩ :=
    ofNat_spec (k := k) (Nat.pow_pos (by decide)) hfive (by omega)
  rw [powerOfTen, hten]
  refine ⟨hfinite, hnegative, ?_⟩
  rw [hvalue, ← Nat.mul_pow]
  push_cast
  rfl

/-- Rounding a natural number leaves it positive, and adds at most the `2 ^ 53`rd part of it. -/
theorem value_ofNat_bounds (hn : 0 < n) (hlt : (n : ℚ) < overflow) :
    0 < (ofNat n).value ∧ (ofNat n).value ≤ n * (1 + 1 / 2 ^ 53) := by
  have hq : (n : ℚ) / (1 : Nat) = n := by rw [Nat.cast_one, div_one]
  obtain ⟨e, m, hunit, hnearest, -, -, hvalue⟩ :=
    ofRatio_spec false hn Nat.one_pos (by rwa [hq])
  rw [hq] at hunit hnearest
  have hpow : (0 : ℚ) < 2 ^ e := by positivity
  have hsmall : 2 ^ 52 * 2 ^ e ≤ (n : ℚ) := by
    rcases hunit.eq_or_le with rfl | hle
    · have hone : (1 : ℚ) ≤ n := by exact_mod_cast hn
      have hle : (2 : ℚ) ^ (-1074 : Int) ≤ 2 ^ (-52 : Int) :=
        zpow_le_zpow_right₀ (by norm_num) (by norm_num)
      have hunits : (2 : ℚ) ^ 52 * 2 ^ (-52 : Int) = 1 := by norm_num
      linarith
    · exact hle
  obtain ⟨hlow, -⟩ := abs_le.1 hnearest.abs_sub_le
  have hround : (m : ℚ) ≤ n / 2 ^ e + 1 / 2 := by linarith
  have hm : m * 2 ^ e ≤ (n : ℚ) + 1 / 2 * 2 ^ e := by
    calc (m : ℚ) * 2 ^ e ≤ (n / 2 ^ e + 1 / 2) * 2 ^ e := by gcongr
      _ = n + 1 / 2 * 2 ^ e := by field_simp
  have hfull : 2 ^ 52 ≤ m := hnearest.le_of_ge (by rw [le_div_iff₀ hpow]; exact hsmall)
  have hpos : (0 : ℚ) < m := by exact_mod_cast lt_of_lt_of_le (by decide) hfull
  rw [ofNat, hvalue]
  exact ⟨mul_pos hpos hpow, by linarith⟩

end PayloadModels.Binary64
