import PayloadModels.Decimal.Reader
import PayloadModels.Json.Fault

/-!
# Numerals

A JSON number as it is written (`Numeral`), how it is read off a text (`readNumeral`), and its
value (`Numeral.value`). An integer that fits 64 bits is kept as an integer. Every other numeral
becomes a binary64 number in two steps: its digits go into a 64-bit number as long as they fit,
and that number is scaled by a power of ten (`scaleByTen?`). The result is not always the nearest
to the numeral, since each step rounds.
-/

namespace PayloadModels.Json

/-- How a value is read. -/
inductive Mode where
  /-- The value is wanted; it stands inside so many open containers. -/
  | build (enclosing : Nat)
  /-- Only the end of the value is wanted, and its grammar is checked loosely. -/
  | skip
  deriving DecidableEq, Repr

/-- The cause to give when a text ends inside a number. -/
def Mode.endInNumber : Mode → Cause
  | build _ => .endInValue
  | skip => .invalidNumber

/-- The parts of a number as it is written. -/
structure Numeral where
  negative : Bool
  whole : List Char
  fraction : Option (List Char)
  /-- Whether the exponent is negative, and its digits. -/
  exponent : Option (Bool × List Char)
  deriving DecidableEq, Repr

/-- Reads digits, of which there is at least one. -/
def readDigits (mode : Mode) (cs : List Char) : Except Stop (List Char × List Char) :=
  match cs.takeWhile Char.isDigit with
  | [] => .error (.at (if cs.isEmpty then mode.endInNumber else .invalidNumber) cs)
  | digits => .ok (digits, cs.dropWhile Char.isDigit)

/-- Reads the part of a number before its point; no other digit follows a leading zero. -/
def readWhole (mode : Mode) (cs : List Char) : Except Stop (List Char × List Char) :=
  match cs with
  | '0' :: rest =>
    if rest.head?.any Char.isDigit then .error (.at .invalidNumber rest) else .ok (['0'], rest)
  | _ => readDigits mode cs

/-- Reads the digits after a point, if a point stands here. -/
def readFraction (mode : Mode) (cs : List Char) :
    Except Stop (Option (List Char) × List Char) :=
  match cs with
  | '.' :: rest => do
    let (digits, rest) ← readDigits mode rest
    return (some digits, rest)
  | _ => return (none, cs)

/-- The sign of an exponent, and what follows it. -/
def exponentSign : List Char → Bool × List Char
  | '-' :: rest => (true, rest)
  | '+' :: rest => (false, rest)
  | cs => (false, cs)

/-- Reads an exponent, if one stands here. -/
def readExponent (mode : Mode) (cs : List Char) :
    Except Stop (Option (Bool × List Char) × List Char) :=
  match cs with
  | c :: rest =>
    if c = 'e' ∨ c = 'E' then do
      let sign := exponentSign rest
      let (digits, rest) ← readDigits mode sign.2
      return (some (sign.1, digits), rest)
    else
      return (none, cs)
  | [] => return (none, [])

/-- Reads a number after its sign. -/
def readNumeral (mode : Mode) (negative : Bool) (cs : List Char) :
    Except Stop (Numeral × List Char) := do
  let (whole, rest) ← readWhole mode cs
  let (fraction, rest) ← readFraction mode rest
  let (exponent, rest) ← readExponent mode rest
  return (⟨negative, whole, fraction, exponent⟩, rest)

/-- Takes digits into a number until the next would bring it over the limit. -/
def absorb (limit : Nat) : Nat → List Char → Nat × List Char
  | n, [] => (n, [])
  | n, d :: ds =>
    let more := n * 10 + (d.toNat - '0'.toNat)
    if limit < more then (n, d :: ds) else absorb limit more ds

/-- The number divided by a power of ten, in steps none of which divides by more than the
greatest power of ten there is. -/
def divideByTens (x : Binary64) (e : Nat) : Binary64 :=
  if x.isZero then x
  else if e ≤ 308 then x.div (.powerOfTen e)
  else divideByTens (x.div (.powerOfTen 308)) (e - 308)
termination_by e
decreasing_by omega

/-- The number times a power of ten, or nothing when that is beyond every finite number. -/
def scaleByTen? (x : Binary64) (e : Int) : Option Binary64 :=
  if x.isZero then some x
  else if e < 0 then some (divideByTens x e.natAbs)
  else if e ≤ 308 then
    let y := x.mul (.powerOfTen e.toNat)
    if y.isInfinite then none else some y
  else none

/-- The greatest exponent that is taken as it is written. -/
def exponentLimit : Nat := 0x7fffffff

/-- The number that an integer of 64 bits and a sign stand for. A negative zero and a negative
number below the least signed one have no integer. -/
def signedNumber (negative : Bool) (n : Nat) : Number :=
  if !negative then .int n
  else if 0 < n ∧ leastInt64 ≤ -n then .int (-n)
  else .float (Binary64.ofNat n).neg

/-- The float of a number and a power of ten, with a sign. -/
def signedFloat? (negative : Bool) (n : Nat) (e : Int) : Option Number :=
  (scaleByTen? (.ofNat n) e).map fun x => .float (if negative then x.neg else x)

/-- The value of a numeral which the text `rest` follows. -/
def Numeral.value (numeral : Numeral) (rest : List Char) : Except Stop Number :=
  let (whole, left) := absorb greatestUInt64 0 numeral.whole
  let fraction := numeral.fraction.getD []
  let (n, unused) := absorb greatestUInt64 whole fraction
  let e : Int := (left.length : Int) - (fraction.length - unused.length : Nat)
  let tooLarge (rest : List Char) : Except Stop Number := .error (.before .numberOutOfRange rest)
  match numeral.exponent with
  | none =>
    if left.isEmpty && numeral.fraction.isNone then .ok (signedNumber numeral.negative whole)
    else (signedFloat? numeral.negative n e).elim (tooLarge rest) .ok
  | some (negative, digits) =>
    match absorb exponentLimit 0 digits with
    | (x, []) =>
      let e := if negative then e - x else e + x
      (signedFloat? numeral.negative n e).elim (tooLarge rest) .ok
    | (_, _ :: more) =>
      if n ≠ 0 ∧ !negative then tooLarge (more ++ rest)
      else .ok (.float (.ofMagnitude numeral.negative 0))

/-- Reads a number after its sign. One that is skipped may be out of range, and counts as
zero. -/
def readNumber (mode : Mode) (negative : Bool) (cs : List Char) :
    Except Stop (Number × List Char) := do
  let (numeral, rest) ← readNumeral mode negative cs
  match mode with
  | .build _ => return (← numeral.value rest, rest)
  | .skip => return (.int 0, rest)

section lengths

/-- Two steps have a result only if the first has one, from which the second goes on. -/
theorem exists_of_bind_eq_ok {ε α β : Type} {x : Except ε α} {f : α → Except ε β} {b : β}
    (h : x >>= f = .ok b) : ∃ a, x = .ok a ∧ f a = .ok b := by
  cases x with
  | error e => cases h
  | ok a => exact ⟨a, rfl, h⟩

variable {mode : Mode} {cs rest : List Char}

/-- Dropping from the front does not lengthen a list. -/
theorem length_dropWhile_le {α : Type} (p : α → Bool) (l : List α) :
    (l.dropWhile p).length ≤ l.length :=
  (List.dropWhile_suffix p).length_le

/-- Digits that are read shorten the text. -/
theorem readDigits_length {digits : List Char} (h : readDigits mode cs = .ok (digits, rest)) :
    rest.length < cs.length := by
  unfold readDigits at h
  split at h
  · cases h
  · next hne =>
    cases h
    cases cs with
    | nil => simp at hne
    | cons c cs =>
      by_cases hc : c.isDigit
      · rw [List.dropWhile_cons, if_pos hc]
        exact Nat.lt_succ_of_le (length_dropWhile_le _ _)
      · simp [hc] at hne

/-- The part before the point takes a digit at least. -/
theorem readWhole_length {digits : List Char} (h : readWhole mode cs = .ok (digits, rest)) :
    rest.length < cs.length := by
  unfold readWhole at h
  split at h
  · split at h
    · cases h
    · cases h; simp
  · exact readDigits_length h

/-- A fraction, which may be missing, does not lengthen the text. -/
theorem readFraction_length {digits : Option (List Char)}
    (h : readFraction mode cs = .ok (digits, rest)) : rest.length ≤ cs.length := by
  unfold readFraction at h
  split at h
  · obtain ⟨⟨_, r⟩, hd, hr⟩ := exists_of_bind_eq_ok h
    cases hr
    exact Nat.le_of_lt (Nat.lt_succ_of_lt (readDigits_length hd))
  · cases h; exact Nat.le_refl _

/-- The sign of an exponent may be missing. -/
theorem length_exponentSign_le (cs : List Char) : (exponentSign cs).2.length ≤ cs.length := by
  unfold exponentSign
  split <;> simp

/-- An exponent, which may be missing, does not lengthen the text. -/
theorem readExponent_length {exponent : Option (Bool × List Char)}
    (h : readExponent mode cs = .ok (exponent, rest)) : rest.length ≤ cs.length := by
  unfold readExponent at h
  split at h
  · next c tail =>
    split at h
    · obtain ⟨⟨_, r⟩, hd, hr⟩ := exists_of_bind_eq_ok h
      cases hr
      exact Nat.le_of_lt (Nat.lt_succ_of_lt
        (Nat.lt_of_lt_of_le (readDigits_length hd) (length_exponentSign_le tail)))
    · cases h; exact Nat.le_refl _
  · cases h; exact Nat.le_refl _

/-- A numeral takes a character at least. -/
theorem readNumeral_length {negative : Bool} {numeral : Numeral}
    (h : readNumeral mode negative cs = .ok (numeral, rest)) : rest.length < cs.length := by
  obtain ⟨⟨_, _⟩, hw, h⟩ := exists_of_bind_eq_ok h
  obtain ⟨⟨_, _⟩, hf, h⟩ := exists_of_bind_eq_ok h
  obtain ⟨⟨_, _⟩, he, h⟩ := exists_of_bind_eq_ok h
  cases h
  exact Nat.lt_of_le_of_lt (Nat.le_trans (readExponent_length he) (readFraction_length hf))
    (readWhole_length hw)

/-- A number that is read shortens the text. -/
theorem readNumber_length {negative : Bool} {number : Number}
    (h : readNumber mode negative cs = .ok (number, rest)) : rest.length < cs.length := by
  obtain ⟨⟨_, _⟩, hn, h⟩ := exists_of_bind_eq_ok h
  cases mode with
  | build =>
    obtain ⟨_, _, h⟩ := exists_of_bind_eq_ok h
    cases h
    exact readNumeral_length hn
  | skip => cases h; exact readNumeral_length hn

end lengths

end PayloadModels.Json
