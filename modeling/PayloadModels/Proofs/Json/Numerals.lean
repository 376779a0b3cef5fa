import Mathlib
import PayloadModels.Json.Writer
import PayloadModels.Proofs.Json.Written

/-!
# Numerals as they are written

A numeral is read back from its text where a character follows that ends a number
(`readNumeral_text`). When its digits fit 64 bits and it shows that it is no integer, its value is
its significand scaled by its power of ten (`Numeral.value_eq`), and the laid out text of a
decimal is the text of such a numeral (`placed`).
-/

namespace PayloadModels.Json

variable {mode : Mode} {cs digits rest : List Char} {c : Char} {numeral : Numeral} {n limit : Nat}

/-! ## Digits -/

/-- Nothing but digits, and at least one. -/
structure IsDigits (cs : List Char) : Prop where
  ne_nil : cs ≠ []
  isDigit : ∀ c ∈ cs, c.isDigit

/-- The text goes on with something else than a digit. -/
def EndsDigits (cs : List Char) : Prop := ∀ c ∈ cs.head?, c.isDigit = false

/-- Before what ends them, the digits are taken. -/
theorem takeWhile_digits (h : ∀ c ∈ digits, c.isDigit) (hrest : EndsDigits rest) :
    (digits ++ rest).takeWhile Char.isDigit = digits := by
  rw [List.takeWhile_append_of_pos h]
  cases rest with
  | nil => rw [List.takeWhile_nil, List.append_nil]
  | cons c rest =>
    rw [List.takeWhile_cons, hrest c rfl, if_neg Bool.false_ne_true, List.append_nil]

/-- Behind the digits, what ends them is left. -/
theorem dropWhile_digits (h : ∀ c ∈ digits, c.isDigit) (hrest : EndsDigits rest) :
    (digits ++ rest).dropWhile Char.isDigit = rest := by
  rw [List.dropWhile_append_of_pos h]
  cases rest with
  | nil => rfl
  | cons c rest => rw [List.dropWhile_cons, hrest c rfl, if_neg Bool.false_ne_true]

/-- Digits are read back before what ends them. -/
theorem readDigits_append (mode : Mode) (h : IsDigits digits) (hrest : EndsDigits rest) :
    readDigits mode (digits ++ rest) = .ok (digits, rest) := by
  rw [readDigits, takeWhile_digits h.isDigit hrest, dropWhile_digits h.isDigit hrest]
  split
  · next hnil => exact absurd rfl h.ne_nil
  · rfl

/-- A number is written by digits. -/
theorem isDigits_toDigits (n : Nat) : IsDigits (Nat.toDigits 10 n) :=
  ⟨Nat.toDigits_ne_nil, fun _ hc => Nat.isDigit_of_mem_toDigits (by decide) (by decide) hc⟩

/-- The digits of a number do not begin with zero. -/
theorem head?_toDigits_ne_zero (hn : 0 < n) : (Nat.toDigits 10 n).head? ≠ some '0' := by
  induction n using Nat.strongRecOn with
  | ind n ih =>
    rw [Nat.toDigits_eq_if (by decide)]
    split
    · next hlt =>
      interval_cases n <;> decide
    · rw [List.head?_append_of_ne_nil _ Nat.toDigits_ne_nil]
      exact ih (n / 10) (by omega) (by omega)

/-- Digits behind a number make no smaller one. -/
theorem le_ofDigitChars (n : Nat) (digits : List Char) : n ≤ Nat.ofDigitChars 10 digits n := by
  rw [Nat.ofDigitChars_eq_ofDigitChars_zero]
  exact (Nat.le_mul_of_pos_left n (Nat.pow_pos (by decide))).trans (Nat.le_add_right _ _)

/-- Digits whose number fits are all taken. -/
theorem absorb_eq (h : Nat.ofDigitChars 10 digits n ≤ limit) :
    absorb limit n digits = (Nat.ofDigitChars 10 digits n, []) := by
  induction digits generalizing n with
  | nil => rfl
  | cons d digits ih =>
    rw [Nat.ofDigitChars_cons, Nat.mul_comm] at h
    have hfits := (le_ofDigitChars _ digits).trans h
    rw [absorb, if_neg hfits.not_gt, ih h, Nat.ofDigitChars_cons, Nat.mul_comm 10]

/-! ## Texts of numerals -/

/-- The text of a numeral after its sign. -/
def Numeral.text (numeral : Numeral) : List Char :=
  numeral.whole ++ (numeral.fraction.elim [] ('.' :: ·)
    ++ numeral.exponent.elim [] fun exponent =>
      'e' :: (if exponent.1 then '-' else '+') :: exponent.2)

/-- The parts of the numeral are digits, and no other digit follows a leading zero. -/
structure Numeral.WellFormed (numeral : Numeral) : Prop where
  whole : IsDigits numeral.whole
  leading : numeral.whole.head? = some '0' → numeral.whole = ['0']
  fraction : ∀ digits ∈ numeral.fraction, IsDigits digits
  exponent : ∀ exponent ∈ numeral.exponent, IsDigits exponent.2

/-- The character ends a number. -/
structure EndsNumber (c : Char) : Prop where
  isDigit : c.isDigit = false
  ne_point : c ≠ '.'
  ne_exponent : ¬ (c = 'e' ∨ c = 'E')

/-- A comma ends a number. -/
theorem endsNumber_comma : EndsNumber ',' := by constructor <;> decide

/-- A closing brace ends a number. -/
theorem endsNumber_brace : EndsNumber '\x7d' := by constructor <;> decide

/-- The part before the point is read back. -/
theorem readWhole_append (mode : Mode) (h : IsDigits digits)
    (hleading : digits.head? = some '0' → digits = ['0']) (hrest : EndsDigits rest) :
    readWhole mode (digits ++ rest) = .ok (digits, rest) := by
  unfold readWhole
  split
  · next tail hzero =>
    obtain ⟨d, ds, rfl⟩ := List.exists_cons_of_ne_nil h.ne_nil
    obtain ⟨rfl, htail⟩ := List.cons.inj hzero
    obtain rfl : ds = [] := List.tail_eq_of_cons_eq (hleading rfl)
    obtain rfl : rest = tail := htail
    have hnone : rest.head?.any Char.isDigit = false := by
      cases rest with
      | nil => rfl
      | cons c rest => exact hrest c rfl
    rw [hnone, if_neg Bool.false_ne_true]
  · exact readDigits_append mode h hrest

/-- A fraction is read back, or that there is none. -/
theorem readFraction_append (mode : Mode) {fraction : Option (List Char)}
    (h : ∀ digits ∈ fraction, IsDigits digits) (hrest : EndsDigits rest)
    (hpoint : rest.head? ≠ some '.') :
    readFraction mode (fraction.elim [] ('.' :: ·) ++ rest) = .ok (fraction, rest) := by
  cases fraction with
  | none =>
    unfold readFraction
    split
    · next tail heq =>
      have htail : rest = '.' :: tail := heq
      exact absurd (by rw [htail]; rfl) hpoint
    · rfl
  | some digits =>
    have hread := readDigits_append mode (h digits rfl) hrest
    simp [readFraction, hread, bind, Except.bind, pure, Except.pure]

/-- An exponent is read back, or that there is none. -/
theorem readExponent_append (mode : Mode) (rest : List Char) {exponent : Option (Bool × List Char)}
    (h : ∀ e ∈ exponent, IsDigits e.2) (hc : EndsNumber c) :
    readExponent mode ((exponent.elim [] fun exponent =>
      'e' :: (if exponent.1 then '-' else '+') :: exponent.2) ++ c :: rest)
      = .ok (exponent, c :: rest) := by
  cases exponent with
  | none => exact if_neg hc.ne_exponent
  | some exponent =>
    obtain ⟨negative, digits⟩ := exponent
    have hends : EndsDigits (c :: rest) := fun d hd => by
      cases hd
      exact hc.isDigit
    have hread := readDigits_append mode (h (negative, digits) rfl) hends
    have hsign : exponentSign ((if negative then '-' else '+') :: digits ++ c :: rest)
        = (negative, digits ++ c :: rest) := by
      cases negative <;> rfl
    simp only [Option.elim_some, List.cons_append, readExponent, true_or, if_true]
    rw [← List.cons_append, hsign, hread]
    rfl

/-- A numeral is read back from its text. -/
theorem readNumeral_text (h : numeral.WellFormed) (hc : EndsNumber c) :
    readNumeral mode numeral.negative (numeral.text ++ c :: rest) = .ok (numeral, c :: rest) := by
  obtain ⟨negative, whole, fraction, exponent⟩ := numeral
  have hexponent := readExponent_append mode rest h.exponent hc
  set tail : List Char := (exponent.elim [] fun exponent =>
    'e' :: (if exponent.1 then '-' else '+') :: exponent.2) ++ c :: rest with htail
  have hhead : tail.head? = some 'e' ∨ tail.head? = some c := by
    cases exponent with
    | none => exact .inr rfl
    | some exponent => exact .inl rfl
  have hends : EndsDigits tail := by
    intro d hd
    rcases hhead with heq | heq
    · obtain rfl := Option.some.inj (heq.symm.trans hd)
      decide
    · obtain rfl := Option.some.inj (heq.symm.trans hd)
      exact hc.isDigit
  have hpoint : tail.head? ≠ some '.' := by
    rcases hhead with heq | heq
    · rw [heq]
      decide
    · rw [heq]
      exact fun hdot => hc.ne_point (Option.some.inj hdot)
  have hfraction := readFraction_append mode h.fraction hends hpoint
  have hbehind : EndsDigits (fraction.elim [] ('.' :: ·) ++ tail) := by
    cases fraction with
    | none => exact hends
    | some digits =>
      intro d hd
      cases hd
      decide
  have hwhole := readWhole_append mode h.whole h.leading hbehind
  have htext : Numeral.text ⟨negative, whole, fraction, exponent⟩ ++ c :: rest
      = whole ++ (fraction.elim [] ('.' :: ·) ++ tail) := by
    rw [htail, Numeral.text, List.append_assoc, List.append_assoc]
  rw [htext, readNumeral, hwhole]
  simp only [bind, Except.bind]
  rw [hfraction]
  simp only
  rw [hexponent]
  rfl

/-! ## Values -/

/-- The digits of a numeral as one number. -/
def Numeral.significand (numeral : Numeral) : Nat :=
  Nat.ofDigitChars 10 (numeral.whole ++ numeral.fraction.getD []) 0

/-- The number of the exponent as it is written. -/
def Numeral.writtenExponent (numeral : Numeral) : Int :=
  numeral.exponent.elim 0 fun exponent =>
    if exponent.1 then -(Nat.ofDigitChars 10 exponent.2 0 : Int)
    else Nat.ofDigitChars 10 exponent.2 0

/-- The power of ten that the digits of a numeral are multiplied with. -/
def Numeral.power (numeral : Numeral) : Int :=
  numeral.writtenExponent - (numeral.fraction.getD []).length

/-- A numeral that shows that it is no integer has its digits scaled by its power of ten, when
both numbers are in range. -/
theorem Numeral.value_eq (hfits : numeral.significand ≤ greatestUInt64)
    (hexponent : ∀ exponent ∈ numeral.exponent,
      Nat.ofDigitChars 10 exponent.2 0 ≤ exponentLimit)
    (hfloat : numeral.fraction.isSome ∨ numeral.exponent.isSome) {found : Number}
    (hfound : signedFloat? numeral.negative numeral.significand numeral.power = some found) :
    numeral.value rest = .ok found := by
  obtain ⟨negative, whole, fraction, exponent⟩ := numeral
  simp only [significand, Nat.ofDigitChars_append] at hfits
  have hwhole : absorb greatestUInt64 0 whole = (Nat.ofDigitChars 10 whole 0, []) :=
    absorb_eq ((le_ofDigitChars _ _).trans hfits)
  have hfraction := absorb_eq hfits
  simp only [significand, power, writtenExponent, Nat.ofDigitChars_append] at hfound
  rw [value, hwhole]
  simp only [hfraction]
  cases exponent with
  | none =>
    have hsome : fraction.isNone = false := by
      rcases hfloat with hfraction | hexponent
      · rw [Option.isNone_eq_false_iff]
        exact hfraction
      · cases hexponent
    simp only [Option.elim_none, zero_sub] at hfound
    simp [hsome, hfound]
  | some exponent =>
    obtain ⟨below, digits⟩ := exponent
    have hdigits := absorb_eq (hexponent _ rfl)
    simp only [hdigits, List.length_nil, Nat.sub_zero, Nat.cast_zero, zero_sub]
    cases below with
    | true =>
      simp only [Option.elim_some, if_true] at hfound ⊢
      rw [neg_sub_comm, hfound]
      rfl
    | false =>
      simp only [Option.elim_some, Bool.false_eq_true, if_false] at hfound ⊢
      rw [neg_add_eq_sub, hfound]
      rfl

/-! ## Numbers in texts -/

/-- A numeral with its sign. -/
def Numeral.signedText (numeral : Numeral) : List Char :=
  if numeral.negative then '-' :: numeral.text else numeral.text

/-- A minus sign begins a negative number. -/
theorem readScalar_minus (mode : Mode) (cs : List Char) : readScalar mode ('-' :: cs)
    = (readNumber mode true cs).map fun read => (.num read.1, read.2) := by
  rw [readScalar]
  cases readNumber mode true cs <;> rfl

/-- A digit begins a number. -/
theorem readScalar_digit (mode : Mode) (cs : List Char) (hc : c.isDigit) :
    readScalar mode (c :: cs)
      = (readNumber mode false (c :: cs)).map fun read => (.num read.1, read.2) := by
  rw [readScalar.eq_def]
  split
  case h_7 heq =>
    cases heq
    rw [if_pos hc]
    cases readNumber mode false (c :: cs) <;> rfl
  -- nothing else that a scalar begins with is a digit
  all_goals
    rename_i heq
    cases heq
    try cases hc

/-- A digit is no gap. -/
theorem isGap_of_isDigit (hc : c.isDigit) : isGap c = false := by
  by_contra hgap
  simp only [isGap, Bool.not_eq_false, Bool.or_eq_true, decide_eq_true_eq] at hgap
  rcases hgap with ((rfl | rfl) | rfl) | rfl
  all_goals cases hc

/-- A number is read back from the text of its numeral. -/
theorem readValue_signedText {depth : Nat} {found : Number} (h : numeral.WellFormed)
    (hc : EndsNumber c) (hvalue : numeral.value (c :: rest) = .ok found) :
    readValue (.build depth) (numeral.signedText ++ c :: rest) = .ok (.num found, c :: rest) := by
  have hnumber : readNumber (.build depth) numeral.negative (numeral.text ++ c :: rest)
      = .ok (found, c :: rest) := by
    rw [readNumber, readNumeral_text h hc]
    simp only [bind, Except.bind, hvalue]
    rfl
  unfold Numeral.signedText
  cases hnegative : numeral.negative with
  | true =>
    rw [hnegative] at hnumber
    rw [if_pos rfl, List.cons_append, readValue_cons_eq_readScalar (by decide) (by decide)
      (by decide), readScalar_minus, hnumber]
    rfl
  | false =>
    rw [hnegative] at hnumber
    rw [if_neg Bool.false_ne_true]
    obtain ⟨d, ds, hwhole⟩ := List.exists_cons_of_ne_nil h.whole.ne_nil
    have hd : d.isDigit := h.whole.isDigit d (by rw [hwhole]; exact List.mem_cons_self)
    have htext : ∃ tail, numeral.text ++ c :: rest = d :: tail := by
      rw [Numeral.text, hwhole]
      exact ⟨_, rfl⟩
    obtain ⟨tail, htail⟩ := htext
    rw [htail] at hnumber ⊢
    rw [readValue_cons_eq_readScalar (isGap_of_isDigit hd), readScalar_digit _ _ hd, hnumber]
    · rfl
    · rintro rfl
      cases hd
    · rintro rfl
      cases hd

/-! ## Integers -/

/-- The numeral of an integer. -/
def intNumeral (n : Int) : Numeral := ⟨decide (n < 0), Nat.toDigits 10 n.natAbs, none, none⟩

/-- An integer is written as its numeral is. -/
theorem toList_toString_int (n : Int) : (toString n).toList = (intNumeral n).signedText := by
  cases n with
  | ofNat n =>
    have hnegative : (intNumeral (.ofNat n)).negative = false :=
      decide_eq_false (Int.natCast_nonneg n).not_gt
    rw [Numeral.signedText, hnegative, if_neg Bool.false_ne_true]
    show n.repr.toList = _
    rw [Nat.toList_repr]
    simp [intNumeral, Numeral.text]
  | negSucc n =>
    have hnegative : (intNumeral (.negSucc n)).negative = true :=
      decide_eq_true (Int.negSucc_lt_zero n)
    rw [Numeral.signedText, hnegative, if_pos rfl]
    show ("-" ++ (n + 1).repr).toList = _
    rw [String.toList_append, Nat.toList_repr]
    simp [intNumeral, Numeral.text]

/-- The numeral of an integer is well-formed. -/
theorem wellFormed_intNumeral (n : Int) : (intNumeral n).WellFormed := by
  refine ⟨isDigits_toDigits _, fun hhead => ?_, nofun, nofun⟩
  rcases Nat.eq_zero_or_pos n.natAbs with hzero | hpos
  · simp [intNumeral, hzero]
  · exact absurd hhead (head?_toDigits_ne_zero hpos)

/-- An integer of 64 bits is the value of its numeral. -/
theorem value_intNumeral {n : Int} (h : isInt64 n) : (intNumeral n).value rest = .ok (.int n) := by
  rw [isInt64_iff, leastInt64, greatestInt64] at h
  have hfits : Nat.ofDigitChars 10 (Nat.toDigits 10 n.natAbs) 0 ≤ greatestUInt64 := by
    rw [Nat.ofDigitChars_ten_toDigits]
    unfold greatestUInt64
    omega
  have habsorb := absorb_eq hfits
  rw [Nat.ofDigitChars_ten_toDigits] at habsorb
  have hsigned : signedNumber (decide (n < 0)) n.natAbs = .int n := by
    unfold signedNumber leastInt64
    rcases lt_or_ge n 0 with hneg | hnonneg
    · rw [decide_eq_true hneg, Bool.not_true, if_neg Bool.false_ne_true, if_pos (by omega)]
      congr 1
      omega
    · rw [decide_eq_false hnonneg.not_gt, Bool.not_false, if_pos rfl]
      congr 1
      omega
  simp only [Numeral.value, intNumeral, habsorb, List.isEmpty_nil, Option.isNone_none,
    Bool.and_true, if_true, hsigned]

end PayloadModels.Json
