import Mathlib
import PayloadModels.Json.Numeral
import PayloadModels.Proofs.Decimal.Binary64

/-!
# Scaling by powers of ten

A numeral of at most 53 bits whose power of ten is a binary64 number is scaled by one rounding, so
it becomes the number in whose interval it lies (`scaleByTen?_of_names`). A greater numeral is
rounded before it is scaled, and so may be its power of ten, which can lead beyond the number but
not beyond every finite number, unless the number is one of the two greatest
(`isSome_scaleByTen?_of_names`).
-/

namespace PayloadModels.Json

open Binary64

variable {x : Binary64} {w : Nat} {e : Int}

/-- A numeral that is scaled by a division or a multiplication of exact numbers becomes the number
in whose interval it lies. -/
theorem scaleByTen?_of_names (hpos : 0 < w) (hlt : w < 2 ^ 53) (he : e.natAbs ≤ 22)
    (hfinite : x.isFinite) (hzero : x.isZero = false) (h : x.Names (w * 10 ^ e)) :
    scaleByTen? (.ofNat w) e = some (.ofMagnitude false x.magnitude) := by
  obtain ⟨-, hnegative, hvalue⟩ := ofNat_spec (k := 0) hpos hlt (by decide)
  rw [pow_zero, mul_one] at hnegative hvalue
  obtain ⟨-, hnegative', hvalue'⟩ := powerOfTen_spec he
  have hw : (ofNat w).isZero = false :=
    isZero_eq_false_of_value_pos (by rw [hvalue]; exact_mod_cast hpos)
  have hten : (powerOfTen e.natAbs).isZero = false :=
    isZero_eq_false_of_value_pos (by rw [hvalue']; positivity)
  have hsign : ((ofNat w).isNegative != (powerOfTen e.natAbs).isNegative) = false := by
    rw [hnegative, hnegative']
    rfl
  rw [scaleByTen?, hw]
  rcases lt_or_ge e 0 with hneg | hnonneg
  · have hq : (ofNat w).value / (powerOfTen e.natAbs).value = w * 10 ^ e := by
      rw [hvalue, hvalue', ← zpow_natCast, div_eq_mul_inv, ← zpow_neg]
      congr 2
      omega
    rw [← hq] at h
    rw [divideByTens, hw]
    simp only [Bool.false_eq_true, if_false, hneg, if_true, he.trans (by decide : 22 ≤ 308)]
    rw [div_of_names hten hfinite hzero h, hsign]
  · have hq : (ofNat w).value * (powerOfTen e.natAbs).value = w * 10 ^ e := by
      rw [hvalue, hvalue', ← zpow_natCast]
      congr 2
      omega
    rw [← hq] at h
    have hinfinite : (ofMagnitude false x.magnitude).isInfinite = false :=
      isInfinite_eq_false (isFinite_ofMagnitude (isFinite_iff.1 hfinite))
    have htoNat : e.toNat = e.natAbs := by omega
    simp only [Bool.false_eq_true, if_false, hnonneg.not_gt, htoNat, (by omega : e ≤ 308), if_true,
      mul_of_names hfinite hzero h, hsign, hinfinite]

/-! ## The range of numbers -/

/-- No number of 310 digits is finite in binary64. -/
theorem overflow_lt : overflow < 10 ^ 309 := by
  have htop : (2 : ℚ) ^ (971 : Int) * 2 ^ 53 = 2 * (2 ^ 93) ^ 11 := by
    rw [← pow_mul, ← pow_succ', ← zpow_natCast, ← zpow_natCast, ← zpow_add₀ (by norm_num)]
    rfl
  have hthree : (2 : ℚ) ^ 93 ≤ 10 ^ 28 := by norm_num
  calc overflow < 2 ^ (971 : Int) * 2 ^ 53 := by
        have hpos : (0 : ℚ) < 2 ^ (971 : Int) := by positivity
        rw [overflow]
        generalize (2 : ℚ) ^ (971 : Int) = top at hpos
        linarith
    _ = 2 * (2 ^ 93) ^ 11 := htop
    _ ≤ 2 * (10 ^ 28) ^ 11 := by gcongr
    _ < 10 ^ 309 := by
        have hpos : (0 : ℚ) < 10 ^ 308 := by positivity
        rw [← pow_mul, pow_succ 10 308]
        generalize (10 : ℚ) ^ 308 = top at hpos
        linarith

/-- The interval of a number ends far below the overflow, but for the two greatest numbers. -/
theorem names_le_of_significand_lt {q : ℚ} (hfinite : x.isFinite) (h : x.Names q)
    (hbelow : x.exponent < 971 ∨ x.significand + 2 < 2 ^ 53) :
    q ≤ (2 ^ 53 - 5 / 2) * 2 ^ (971 : Int) := by
  have hpos : (0 : ℚ) < 2 ^ (971 : Int) := by positivity
  refine h.ge.trans ?_
  rcases hbelow with hexponent | hsignificand
  · have hpow : (2 : ℚ) ^ (x.exponent + 1) ≤ 2 ^ (971 : Int) :=
      zpow_le_zpow_right₀ (by norm_num) (by omega)
    have hm : (x.significand : ℚ) + 1 ≤ 2 ^ 53 := by exact_mod_cast x.significand_lt
    rw [zpow_add_one₀ (by norm_num)] at hpow
    generalize (2 : ℚ) ^ (971 : Int) = top at hpow hpos ⊢
    calc ((x.significand : ℚ) + 1 / 2) * 2 ^ x.exponent
        ≤ (2 ^ 53 - 1 / 2) * (top / 2) := by
          gcongr
          · linarith
          · linarith
      _ ≤ (2 ^ 53 - 5 / 2) * top := by linarith
  · have hpow : (2 : ℚ) ^ x.exponent ≤ 2 ^ (971 : Int) :=
      zpow_le_zpow_right₀ (by norm_num) (exponent_le hfinite)
    have hm : x.significand + 3 ≤ 2 ^ 53 := hsignificand
    have hm : (x.significand : ℚ) + 3 ≤ 2 ^ 53 := by exact_mod_cast hm
    generalize (2 : ℚ) ^ (971 : Int) = top at hpow hpos ⊢
    gcongr
    linarith

/-- A power of ten in the range of binary64 is at most the 308th. -/
theorem le_of_pow_lt_overflow {k : Nat} (h : (10 : ℚ) ^ k < overflow) : k ≤ 308 := by
  by_contra! hlarge
  have hpow : (10 : ℚ) ^ 309 ≤ 10 ^ k := pow_le_pow_right₀ (by norm_num) hlarge
  exact absurd (hpow.trans_lt h) overflow_lt.not_gt

/-- Rounding the parts of a product, and then the product, does not lead beyond the overflow when
the product ends so far below it. -/
theorem isFinite_mul_powerOfTen {k : Nat} (hpos : 0 < w)
    (h : (w : ℚ) * 10 ^ k ≤ (2 ^ 53 - 5 / 2) * 2 ^ (971 : Int)) :
    k ≤ 308 ∧ ((ofNat w).mul (powerOfTen k)).isFinite := by
  have htop : (0 : ℚ) < 2 ^ (971 : Int) := by positivity
  have hone : (1 : ℚ) ≤ w := by exact_mod_cast hpos
  have hover : (w : ℚ) * 10 ^ k < overflow := by
    rw [overflow]
    generalize (2 : ℚ) ^ (971 : Int) = top at h htop ⊢
    linarith
  have hwover : (w : ℚ) < overflow :=
    (le_mul_of_one_le_right (by linarith) (one_le_pow₀ (by norm_num))).trans_lt hover
  have htenover : (10 : ℚ) ^ k < overflow :=
    (le_mul_of_one_le_left (by positivity) hone).trans_lt hover
  obtain ⟨hwpos, hwvalue⟩ := value_ofNat_bounds hpos hwover
  obtain ⟨htenpos, htenvalue⟩ := value_ofNat_bounds (n := Nat.pow 10 k)
    (Nat.pow_pos (by decide)) (by push_cast [Nat.pow_eq]; exact htenover)
  refine ⟨le_of_pow_lt_overflow htenover, isFinite_mul (mul_pos hwpos htenpos) ?_⟩
  calc (ofNat w).value * (powerOfTen k).value
      ≤ w * (1 + 1 / 2 ^ 53) * ((Nat.pow 10 k : Nat) * (1 + 1 / 2 ^ 53)) :=
        mul_le_mul hwvalue htenvalue htenpos.le (by positivity)
    _ = w * 10 ^ k * (1 + 1 / 2 ^ 53) ^ 2 := by
        push_cast [Nat.pow_eq]
        ring
    _ ≤ (2 ^ 53 - 5 / 2) * 2 ^ (971 : Int) * (1 + 1 / 2 ^ 53) ^ 2 := by gcongr
    _ < overflow := by
        rw [overflow]
        generalize (2 : ℚ) ^ (971 : Int) = top at htop ⊢
        linarith

/-- What two roundings make of a numeral in the interval of a number is finite, unless the number
is one of the two greatest. -/
theorem isSome_scaleByTen?_of_names (hpos : 0 < w) (hfinite : x.isFinite)
    (h : x.Names (w * 10 ^ e)) (hbelow : x.exponent < 971 ∨ x.significand + 2 < 2 ^ 53) :
    (scaleByTen? (.ofNat w) e).isSome := by
  have hle := names_le_of_significand_lt hfinite h hbelow
  unfold scaleByTen?
  split
  · rfl
  · split
    · rfl
    · next hnonneg =>
      obtain ⟨k, rfl⟩ : ∃ k : Nat, e = k := ⟨e.toNat, by omega⟩
      rw [zpow_natCast] at hle
      obtain ⟨hk, hmul⟩ := isFinite_mul_powerOfTen hpos hle
      simp [hk, isInfinite_eq_false hmul]

end PayloadModels.Json
