import Mathlib
import PayloadModels.Proofs.Decimal.Shortest
import PayloadModels.Proofs.Json.Numerals
import PayloadModels.Proofs.Json.Scaling

/-!
# The texts of numbers

A decimal is laid out as a numeral that stands for it (`exists_significand_placed`), with its own
digits unless zeros are written up to its point and behind it. So the numeral that a finite number
is written as lies in the number's interval (`names_floatNumeral`), its parts are in range, and
what the reader makes of it is finite (`isSome_scaleByTen?_floatNumeral`), though it need not be
the number.
-/

namespace PayloadModels.Json

variable {cs digits rest : List Char} {c : Char} {n : Nat}

/-! ## Decimals laid out -/

/-- The numeral that a decimal is laid out as, its point after `point` of its digits. -/
def placed (negative : Bool) (digits : List Char) (point : Int) : Numeral :=
  if point ≤ -5 ∨ 16 < point then
    { negative
      whole := digits.take 1
      fraction := if (digits.drop 1).isEmpty then none else some (digits.drop 1)
      exponent := some (decide (point ≤ 0), Nat.toDigits 10 (point - 1).natAbs) }
  else if point ≤ 0 then
    { negative
      whole := ['0']
      fraction := some (List.replicate (-point).toNat '0' ++ digits)
      exponent := none }
  else
    { negative
      whole := digits.take point.toNat
        ++ List.replicate (point.toNat - (digits.take point.toNat).length) '0'
      fraction := some
        (if (digits.drop point.toNat).isEmpty then ['0'] else digits.drop point.toNat)
      exponent := none }

variable {negative : Bool} {point : Int}

/-- Placing the point leaves the sign. -/
theorem negative_placed : (placed negative digits point).negative = negative := by
  unfold placed
  split
  · rfl
  · split <;> rfl

/-- The text of a placed numeral is its digits, laid out around the point. -/
theorem text_placed : (placed negative digits point).text = layOut digits point := by
  unfold placed layOut
  split
  · simp only [Numeral.text, Option.elim_some, decide_eq_true_eq]
    split <;> simp
  · split
    · simp [Numeral.text]
    · simp [Numeral.text]

/-- A digit alone or before others is a row of digits. -/
theorem isDigits_cons (hc : c.isDigit) (h : ∀ d ∈ cs, d.isDigit) : IsDigits (c :: cs) :=
  ⟨List.cons_ne_nil _ _, List.forall_mem_cons.2 ⟨hc, h⟩⟩

/-- Zeros are digits. -/
theorem isDigit_of_mem_replicate (h : c ∈ List.replicate n '0') : c.isDigit := by
  rw [List.eq_of_mem_replicate h]
  rfl

/-- Digits that do not begin with a zero make a well-formed numeral, wherever the point is placed.
-/
theorem wellFormed_placed (h : IsDigits digits) (hhead : digits.head? ≠ some '0') :
    (placed negative digits point).WellFormed := by
  obtain ⟨d, ds, rfl⟩ := List.exists_cons_of_ne_nil h.ne_nil
  obtain ⟨hd, hds⟩ := List.forall_mem_cons.1 h.isDigit
  unfold placed
  split
  · refine ⟨isDigits_cons hd nofun, fun hzero => absurd hzero hhead, fun digits hdigits => ?_, ?_⟩
    · obtain ⟨hne, hsome⟩ := Option.ite_none_left_eq_some.1 hdigits
      obtain rfl : ds = digits := Option.some.inj hsome
      exact ⟨fun hnil => hne (by rw [hnil]; rfl), hds⟩
    · intro exponent hexponent
      obtain rfl := Option.some.inj hexponent
      exact isDigits_toDigits _
  · split
    · refine ⟨isDigits_cons rfl nofun, fun _ => rfl, ?_, nofun⟩
      intro fraction hfraction
      obtain rfl := Option.some.inj hfraction
      refine ⟨List.append_ne_nil_of_right_ne_nil _ h.ne_nil, fun c hc => ?_⟩
      exact (List.mem_append.1 hc).elim isDigit_of_mem_replicate (h.isDigit c)
    · obtain ⟨n, hn⟩ : ∃ n, point.toNat = n + 1 := ⟨point.toNat - 1, by omega⟩
      rw [hn, List.take_succ_cons, List.cons_append]
      refine ⟨isDigits_cons hd fun c hc => ?_, fun hzero => absurd hzero hhead, ?_, nofun⟩
      · exact (List.mem_append.1 hc).elim (fun hc => hds c (List.mem_of_mem_take hc))
          isDigit_of_mem_replicate
      · intro fraction hfraction
        obtain rfl := Option.some.inj hfraction
        split
        · exact isDigits_cons rfl nofun
        · next hne =>
          exact ⟨fun hnil => hne (by rw [hnil]; rfl), fun c hc =>
            h.isDigit c (List.mem_of_mem_drop hc)⟩

/-- Zeros in front do not change the value of digits. -/
theorem ofDigitChars_replicate_append (n : Nat) (digits : List Char) :
    Nat.ofDigitChars 10 (List.replicate n '0' ++ digits) 0 = Nat.ofDigitChars 10 digits 0 := by
  rw [Nat.ofDigitChars_append, Nat.ofDigitChars_replicate_zero, Nat.mul_zero]

/-- Each zero behind the digits multiplies their value by ten. -/
theorem ofDigitChars_append_replicate (n : Nat) (digits : List Char) :
    Nat.ofDigitChars 10 (digits ++ List.replicate n '0') 0
      = Nat.ofDigitChars 10 digits 0 * 10 ^ n := by
  rw [Nat.ofDigitChars_append, Nat.ofDigitChars_replicate_zero, Nat.mul_comm]

/-- A decimal is laid out with its own digits, unless zeros are written up to its point and behind
it. -/
theorem exists_significand_placed (negative : Bool) (point : Int) (h : digits ≠ []) : ∃ zeros : Nat,
    (placed negative digits point).significand = Nat.ofDigitChars 10 digits 0 * 10 ^ zeros ∧
      (placed negative digits point).power = point - digits.length - zeros ∧
      (zeros = 0 ∨ digits.length + zeros ≤ 17) := by
  have hlength := List.length_pos_of_ne_nil h
  unfold placed Numeral.significand Numeral.power Numeral.writtenExponent
  split
  · have hfraction : (if (digits.drop 1).isEmpty then none else some (digits.drop 1)).getD []
        = digits.drop 1 := by
      cases digits.drop 1 <;> rfl
    refine ⟨0, ?_, ?_, .inl rfl⟩
    · simp only [hfraction, List.take_append_drop, pow_zero, mul_one]
    · simp only [hfraction, List.length_drop, Option.elim_some, Nat.ofDigitChars_ten_toDigits,
        decide_eq_true_eq]
      split <;> omega
  · split
    · refine ⟨0, ?_, ?_, .inl rfl⟩
      · simp only [Option.getD_some, pow_zero, mul_one]
        exact ofDigitChars_replicate_append ((-point).toNat + 1) digits
      · simp only [Option.getD_some, Option.elim_none, List.length_append, List.length_replicate]
        omega
    · obtain ⟨n, rfl⟩ : ∃ n : Nat, point = n := ⟨point.toNat, by omega⟩
      rw [Int.toNat_natCast]
      rcases Nat.lt_or_ge n digits.length with hlt | hge
      · have hdrop : (digits.drop n).isEmpty = false := by
          rw [List.isEmpty_eq_false_iff, Ne, List.drop_eq_nil_iff]
          omega
        refine ⟨0, ?_, ?_, .inl rfl⟩
        · simp only [hdrop, Option.getD_some, List.length_take, Nat.min_eq_left hlt.le,
            Nat.sub_self, List.replicate_zero, List.append_nil, Bool.false_eq_true, if_false,
            List.take_append_drop, pow_zero, mul_one]
        · simp only [hdrop, Option.getD_some, Option.elim_none, Bool.false_eq_true, if_false,
            List.length_drop]
          omega
      · refine ⟨n - digits.length + 1, ?_, ?_, .inr (by omega)⟩
        · rw [List.take_of_length_le hge, List.drop_of_length_le hge]
          simp only [Option.getD_some, List.isEmpty_nil, if_true, List.append_assoc]
          rw [← List.replicate_succ', ofDigitChars_append_replicate]
        · simp only [List.drop_of_length_le hge, Option.getD_some, List.isEmpty_nil, if_true,
            Option.elim_none, List.length_singleton]
          omega

/-- Digits write a number below the power of ten of their count. -/
theorem ofDigitChars_lt (h : ∀ c ∈ digits, c.isDigit) :
    Nat.ofDigitChars 10 digits 0 < 10 ^ digits.length := by
  induction digits with
  | nil => decide
  | cons c digits ih =>
    obtain ⟨hc, hdigits⟩ := List.forall_mem_cons.1 h
    have hlt := ih hdigits
    have hdigit : c.toNat - '0'.toNat ≤ 9 := by
      rw [Char.isDigit, Bool.and_eq_true, decide_eq_true_eq, decide_eq_true_eq] at hc
      exact Nat.sub_le_of_le_add (UInt32.le_iff_toNat_le.1 hc.2)
    rw [Nat.ofDigitChars_cons, Nat.mul_zero, Nat.zero_add,
      Nat.ofDigitChars_eq_ofDigitChars_zero, List.length_cons]
    have hmul := Nat.mul_le_mul_left (10 ^ digits.length) hdigit
    omega

/-! ## The texts of numbers -/

/-- Zeros can move between the digits of a decimal and its power of ten. -/
theorem mul_pow_mul_zpow (n zeros : Nat) (e : Int) :
    ((n * 10 ^ zeros : Nat) : ℚ) * 10 ^ e = n * 10 ^ (e + zeros) := by
  rw [zpow_add₀ (by norm_num), zpow_natCast]
  push_cast
  ring

/-- The zeros at the end of digits. -/
theorem exists_eq_append_zeros (digits : List Char) : ∃ zeros,
    digits = (digits.reverse.dropWhile (· = '0')).reverse ++ List.replicate zeros '0' := by
  refine ⟨(digits.reverse.takeWhile (· = '0')).reverse.length, ?_⟩
  have hzeros : ∀ c ∈ (digits.reverse.takeWhile (· = '0')).reverse, c = '0' := by
    intro c hc
    simpa using List.mem_takeWhile_imp (List.mem_reverse.1 hc)
  rw [← List.eq_replicate_of_mem hzeros, ← List.reverse_append, List.takeWhile_append_dropWhile,
    List.reverse_reverse]

/-- The digits of a decimal without the zeros at its end stand for the decimal, with the point
where it was. -/
theorem pointedDigits_spec {d : Binary64.Decimal} (hd : 0 < d.digits) :
    IsDigits (pointedDigits d).1 ∧ (pointedDigits d).1.head? ≠ some '0' ∧
      (pointedDigits d).1.length ≤ (Nat.toDigits 10 d.digits).length ∧
      Nat.ofDigitChars 10 (pointedDigits d).1 0 ≤ d.digits ∧
      (Nat.ofDigitChars 10 (pointedDigits d).1 0 : ℚ)
        * 10 ^ ((pointedDigits d).2 - (pointedDigits d).1.length) = d.digits * 10 ^ d.exponent := by
  obtain ⟨zeros, hzeros⟩ := exists_eq_append_zeros (Nat.toDigits 10 d.digits)
  have hpointed : pointedDigits d
      = (((Nat.toDigits 10 d.digits).reverse.dropWhile (· = '0')).reverse,
        (Nat.toDigits 10 d.digits).length + d.exponent) := rfl
  have hhead := head?_toDigits_ne_zero hd
  have hall := isDigits_toDigits d.digits
  have hvalue := Nat.ofDigitChars_ten_toDigits (n := d.digits)
  rw [hpointed]
  generalize ((Nat.toDigits 10 d.digits).reverse.dropWhile (· = '0')).reverse = kept at hzeros ⊢
  generalize Nat.toDigits 10 d.digits = all at *
  subst hzeros
  rw [ofDigitChars_append_replicate] at hvalue
  have hkept : kept ≠ [] := by
    rintro rfl
    cases zeros with
    | zero => exact hall.ne_nil rfl
    | succ zeros => exact hhead rfl
  rw [List.head?_append_of_ne_nil _ hkept] at hhead
  refine ⟨⟨hkept, fun c hc => hall.isDigit c (List.mem_append_left _ hc)⟩, hhead, ?_, ?_, ?_⟩
  · rw [List.length_append]
    exact Nat.le_add_right _ _
  · rw [← hvalue]
    exact Nat.le_mul_of_pos_right _ (Nat.pow_pos (by decide))
  · have hpoint : (((kept ++ List.replicate zeros '0').length : Int) + d.exponent - kept.length)
        = d.exponent + zeros := by
      rw [List.length_append, List.length_replicate]
      push_cast
      ring
    dsimp only
    rw [hpoint, ← hvalue, mul_pow_mul_zpow]

/-! ## Numerals of numbers -/

/-- The numeral that a finite number is written as. -/
def floatNumeral (x : Binary64) : Numeral :=
  if x.isZero then ⟨x.isNegative, ['0'], some ['0'], none⟩
  else placed x.isNegative (pointedDigits x.shortest).1 (pointedDigits x.shortest).2

variable {x : Binary64}

/-- Zero is written with a zero on both sides of its point. -/
theorem floatNumeral_of_isZero (hzero : x.isZero) :
    floatNumeral x = ⟨x.isNegative, ['0'], some ['0'], none⟩ :=
  if_pos hzero

/-- Another number is written by its shortest digits with the point placed. -/
theorem floatNumeral_of_ne (hzero : x.isZero = false) : floatNumeral x
    = placed x.isNegative (pointedDigits x.shortest).1 (pointedDigits x.shortest).2 := by
  rw [floatNumeral, hzero, if_neg Bool.false_ne_true]

/-- A numeral has the sign of its number. -/
theorem negative_floatNumeral (x : Binary64) : (floatNumeral x).negative = x.isNegative := by
  unfold floatNumeral
  split
  · rfl
  · exact negative_placed

/-- The text of a finite number is that of its numeral. -/
theorem toList_floatText (x : Binary64) :
    (floatText x).toList = (floatNumeral x).signedText := by
  rw [Numeral.signedText, negative_floatNumeral]
  unfold floatText floatNumeral
  rw [String.toList_ofList]
  cases x.isZero with
  | true => rfl
  | false => simp [text_placed]

/-- The shortest digits of a number other than zero write no zero. -/
theorem shortest_digits_pos (hzero : x.isZero = false) : 0 < x.shortest.digits := by
  have hpos := (Binary64.names_shortest hzero).1.pos hzero
  rcases Nat.eq_zero_or_pos x.shortest.digits with heq | hpos'
  · rw [heq, Nat.cast_zero, zero_mul] at hpos
    exact absurd hpos (lt_irrefl 0)
  · exact hpos'

/-- The numeral of a number is well-formed. -/
theorem wellFormed_floatNumeral (x : Binary64) : (floatNumeral x).WellFormed := by
  cases hzero : x.isZero with
  | true =>
    rw [floatNumeral_of_isZero hzero]
    refine ⟨isDigits_cons rfl nofun, fun _ => rfl, fun fraction hfraction => ?_, nofun⟩
    obtain rfl := Option.some.inj hfraction
    exact isDigits_cons rfl nofun
  | false =>
    obtain ⟨hdigits, hhead, -⟩ := pointedDigits_spec (shortest_digits_pos hzero)
    rw [floatNumeral_of_ne hzero]
    exact wellFormed_placed hdigits hhead

/-- The numeral of a number lies in the number's interval. -/
theorem names_floatNumeral (hzero : x.isZero = false) : 0 < (floatNumeral x).significand ∧
    x.Names ((floatNumeral x).significand * 10 ^ (floatNumeral x).power) := by
  have hnames := (Binary64.names_shortest hzero).1
  obtain ⟨hdigits, -, -, -, hvalue⟩ := pointedDigits_spec (shortest_digits_pos hzero)
  obtain ⟨zeros, hsignificand, hpower, -⟩ := exists_significand_placed x.isNegative
    (pointedDigits x.shortest).2 hdigits.ne_nil
  rw [floatNumeral_of_ne hzero]
  have heq : ((placed x.isNegative (pointedDigits x.shortest).1
      (pointedDigits x.shortest).2).significand : ℚ) * 10 ^ (placed x.isNegative
      (pointedDigits x.shortest).1 (pointedDigits x.shortest).2).power
      = x.shortest.digits * 10 ^ x.shortest.exponent := by
    rw [hsignificand, hpower, ← hvalue, mul_pow_mul_zpow, sub_add_cancel]
  rw [heq]
  refine ⟨Nat.pos_of_ne_zero fun hnone => ?_, hnames⟩
  rw [hnone, Nat.cast_zero, zero_mul] at heq
  have hpos := hnames.pos hzero
  rw [← heq] at hpos
  exact absurd hpos (lt_irrefl 0)

/-- The digits of a number's numeral fit 64 bits. -/
theorem significand_floatNumeral_le (x : Binary64) :
    (floatNumeral x).significand ≤ greatestUInt64 := by
  cases hzero : x.isZero with
  | true =>
    rw [floatNumeral_of_isZero hzero]
    exact Nat.zero_le _
  | false =>
    obtain ⟨hdigits, -, -, hle, -⟩ := pointedDigits_spec (shortest_digits_pos hzero)
    obtain ⟨zeros, hsignificand, -, hzeros⟩ := exists_significand_placed x.isNegative
      (pointedDigits x.shortest).2 hdigits.ne_nil
    rw [floatNumeral_of_ne hzero, hsignificand]
    rcases hzeros with rfl | hzeros
    · rw [pow_zero, mul_one]
      exact (hle.trans (Binary64.names_shortest hzero).2).trans (by decide)
    · calc Nat.ofDigitChars 10 (pointedDigits x.shortest).1 0 * 10 ^ zeros
          ≤ 10 ^ (pointedDigits x.shortest).1.length * 10 ^ zeros :=
            Nat.mul_le_mul_right _ (ofDigitChars_lt hdigits.isDigit).le
        _ = 10 ^ ((pointedDigits x.shortest).1.length + zeros) := (Nat.pow_add 10 _ _).symm
        _ ≤ 10 ^ 17 := Nat.pow_le_pow_right (by decide) hzeros
        _ ≤ greatestUInt64 := by decide

/-- The exponent of a decimal that is laid out is its point, but for one. -/
theorem exponent_placed_le {point : Int} (hlow : -(exponentLimit : Int) < point)
    (hhigh : point ≤ exponentLimit) : ∀ exponent ∈ (placed negative digits point).exponent,
      Nat.ofDigitChars 10 exponent.2 0 ≤ exponentLimit := by
  unfold placed
  intro exponent hexponent
  split at hexponent
  · obtain rfl := Option.some.inj hexponent
    rw [Nat.ofDigitChars_ten_toDigits]
    omega
  · split at hexponent
    · cases hexponent
    · cases hexponent

/-- The point of the shortest decimal of a finite number. -/
theorem pointedDigits_shortest_bounds (hfinite : x.isFinite) (hzero : x.isZero = false) :
    -1075 < (pointedDigits x.shortest).2 ∧ (pointedDigits x.shortest).2 ≤ 1044 := by
  obtain ⟨hnames, hfits⟩ := Binary64.names_shortest hzero
  obtain ⟨hlow, hhigh⟩ := hnames.bounds hfinite hzero
  obtain ⟨hdigits, -, hlength, -, hvalue⟩ := pointedDigits_spec (shortest_digits_pos hzero)
  have hlong : (Nat.toDigits 10 x.shortest.digits).length ≤ 20 :=
    (Nat.length_toDigits_le_iff (by decide) (by decide)).2 (hfits.trans_lt (by decide))
  have hlt := ofDigitChars_lt hdigits.isDigit
  have hpos : 0 < Nat.ofDigitChars 10 (pointedDigits x.shortest).1 0 := by
    refine Nat.pos_of_ne_zero fun hnone => ?_
    rw [hnone, Nat.cast_zero, zero_mul] at hvalue
    rw [← hvalue] at hlow
    exact absurd hlow (not_le.2 (by positivity))
  rw [← hvalue] at hlow hhigh
  generalize Nat.ofDigitChars 10 (pointedDigits x.shortest).1 0 = w at hlow hhigh hlt hpos
  generalize (pointedDigits x.shortest).1.length = length at *
  generalize (pointedDigits x.shortest).2 = point at *
  have hlt : (w : ℚ) < 10 ^ (length : Int) := by
    rw [zpow_natCast]
    exact_mod_cast hlt
  have hone : (1 : ℚ) ≤ w := by exact_mod_cast hpos
  have hscale : (0 : ℚ) < 10 ^ (point - length) := by positivity
  constructor
  · have hbelow : (w : ℚ) * 10 ^ (point - length) < 10 ^ point := by
      calc (w : ℚ) * 10 ^ (point - length) < 10 ^ (length : Int) * 10 ^ (point - length) :=
            mul_lt_mul_of_pos_right hlt hscale
        _ = 10 ^ point := by
            rw [← zpow_add₀ (by norm_num)]
            congr 1
            ring
    exact (zpow_lt_zpow_iff_right₀ (by norm_num)).1 (hlow.trans_lt hbelow)
  · have habove : (10 : ℚ) ^ (point - length) < 10 ^ (1024 : Int) :=
      (le_mul_of_one_le_left hscale.le hone).trans_lt hhigh
    have := (zpow_lt_zpow_iff_right₀ (by norm_num)).1 habove
    omega

/-- The exponent of a finite number's numeral is below the limit of the reader. -/
theorem exponent_floatNumeral_le (hfinite : x.isFinite) :
    ∀ exponent ∈ (floatNumeral x).exponent, Nat.ofDigitChars 10 exponent.2 0 ≤ exponentLimit := by
  cases hzero : x.isZero with
  | true =>
    rw [floatNumeral_of_isZero hzero]
    exact nofun
  | false =>
    obtain ⟨hlow, hhigh⟩ := pointedDigits_shortest_bounds hfinite hzero
    rw [floatNumeral_of_ne hzero]
    refine exponent_placed_le ?_ ?_
    · unfold exponentLimit
      omega
    · unfold exponentLimit
      omega

/-- The numeral of a number does not read as an integer. -/
theorem isFloat_floatNumeral (x : Binary64) :
    (floatNumeral x).fraction.isSome ∨ (floatNumeral x).exponent.isSome := by
  unfold floatNumeral placed
  split
  · exact .inl rfl
  · split
    · exact .inr rfl
    · split
      · exact .inl rfl
      · exact .inl rfl

/-! ## Reading the numerals of numbers -/

/-- The two greatest finite numbers. -/
theorem exponent_lt_or_significand_lt_or (hfinite : x.isFinite) :
    (x.exponent < 971 ∨ x.significand + 2 < 2 ^ 53) ∨
      x.magnitude = 0x7feffffffffffffe ∨ x.magnitude = 0x7fefffffffffffff := by
  have hexponent := Binary64.exponent_le hfinite
  have hsignificand := x.significand_lt
  have hmagnitude := x.magnitude_eq
  unfold Binary64.leadingBit at hmagnitude
  omega

/-- The numeral of a finite number does not leave the range when it is scaled. -/
theorem isSome_scaleByTen?_floatNumeral (hfinite : x.isFinite) :
    (scaleByTen? (.ofNat (floatNumeral x).significand) (floatNumeral x).power).isSome := by
  cases hzero : x.isZero with
  | true =>
    rw [floatNumeral_of_isZero hzero]
    rfl
  | false =>
    obtain ⟨hpos, hnames⟩ := names_floatNumeral hzero
    rcases exponent_lt_or_significand_lt_or hfinite with hbelow | hmagnitude | hmagnitude
    · exact isSome_scaleByTen?_of_names hpos hfinite hnames hbelow
    · have hx := x.ofMagnitude_magnitude
      rw [hmagnitude] at hx
      rw [← hx]
      cases x.isNegative
      · decide +kernel
      · decide +kernel
    · have hx := x.ofMagnitude_magnitude
      rw [hmagnitude] at hx
      rw [← hx]
      cases x.isNegative
      · decide +kernel
      · decide +kernel

/-- A numeral of at most 53 bits that is scaled by an exact power of ten is read back as the number
that was written. -/
theorem eq_of_scaleByTen?_floatNumeral (hfinite : x.isFinite)
    (hlt : (floatNumeral x).significand < 2 ^ 53) (hpower : (floatNumeral x).power.natAbs ≤ 22)
    {scaled : Binary64} (hscaled : scaleByTen? (.ofNat (floatNumeral x).significand)
      (floatNumeral x).power = some scaled) :
    (if x.isNegative then scaled.neg else scaled) = x := by
  have habs : scaled = .ofMagnitude false x.magnitude := by
    cases hzero : x.isZero with
    | true =>
      have hmagnitude : x.magnitude = 0 := of_decide_eq_true hzero
      rw [floatNumeral_of_isZero hzero] at hscaled
      rw [hmagnitude]
      exact (Option.some.inj hscaled).symm
    | false =>
      obtain ⟨hpos, hnames⟩ := names_floatNumeral hzero
      rw [scaleByTen?_of_names hpos hlt hpower hfinite hzero hnames] at hscaled
      exact (Option.some.inj hscaled).symm
  have hsign := Binary64.lt_signBit_of_lt_infiniteBits (Binary64.isFinite_iff.1 hfinite)
  have hx := x.ofMagnitude_magnitude
  rw [habs, Binary64.neg, Binary64.isNegative_ofMagnitude hsign,
    Binary64.magnitude_ofMagnitude hsign]
  cases hnegative : x.isNegative
  all_goals
    rw [hnegative] at hx
    exact hx

/-- A finite number is read back from its text as its numeral scaled. -/
theorem readValue_floatText {depth : Nat} {scaled : Binary64} (hfinite : x.isFinite)
    (hscaled : scaleByTen? (.ofNat (floatNumeral x).significand) (floatNumeral x).power
      = some scaled) (hc : EndsNumber c) :
    readValue (.build depth) ((floatText x).toList ++ c :: rest)
      = .ok (.num (.float (if x.isNegative then scaled.neg else scaled)), c :: rest) := by
  have hfloat : signedFloat? (floatNumeral x).negative (floatNumeral x).significand
      (floatNumeral x).power = some (.float (if x.isNegative then scaled.neg else scaled)) := by
    rw [signedFloat?, hscaled, negative_floatNumeral, Option.map_some]
  rw [toList_floatText]
  exact readValue_signedText (wellFormed_floatNumeral x) hc
    (Numeral.value_eq (significand_floatNumeral_le x) (exponent_floatNumeral_le hfinite)
      (isFloat_floatNumeral x) hfloat)

end PayloadModels.Json
