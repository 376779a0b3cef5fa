import PayloadModels.Json.Numeral

/-!
# Scalars

Reading the values that hold no others: the three words, numbers and strings (`readScalar`). A
character beyond the first 65536 is escaped as two surrogates, and either of them alone is a
fault of a string that is wanted. What is read shortens the text (`readScalar_length`), which is
why reading a whole text ends.
-/

namespace PayloadModels.Json

/-- A blank between the tokens of JSON. -/
def isGap (c : Char) : Bool := c = ' ' || c = '\n' || c = '\t' || c = '\r'

/-- The text without the blanks at its beginning. -/
def skipGap (cs : List Char) : List Char := cs.dropWhile isGap

/-- Skipping a gap does not lengthen the text. -/
theorem length_skipGap_le (cs : List Char) : (skipGap cs).length ≤ cs.length :=
  length_dropWhile_le _ _

/-- Reads the remaining letters of a word. -/
def readWord : List Char → List Char → Except Stop (List Char)
  | [], cs => .ok cs
  | _ :: _, [] => .error (.before .endInValue [])
  | w :: ws, c :: cs => if c = w then readWord ws cs else .error (.at .unknownWord (c :: cs))

/-- The value of a hexadecimal digit. -/
def hexValue? (c : Char) : Option Nat :=
  if c.isDigit then some (c.toNat - '0'.toNat)
  else if 'a' ≤ c ∧ c ≤ 'f' then some (c.toNat - 'a'.toNat + 10)
  else if 'A' ≤ c ∧ c ≤ 'F' then some (c.toNat - 'A'.toNat + 10)
  else none

/-- The number that four hexadecimal digits write, and what follows them. -/
def fourHexDigits? : List Char → Option (Nat × List Char)
  | a :: b :: c :: d :: rest => do
    return (((← hexValue? a) * 16 + (← hexValue? b)) * 16 * 16
      + (← hexValue? c) * 16 + (← hexValue? d), rest)
  | _ => none

/-- Reads four hexadecimal digits. A fault lies after the four bytes that should have been the
digits. -/
def readHex (cs : List Char) : Except Stop (Nat × List Char) :=
  match fourHexDigits? cs with
  | some found => .ok found
  | none =>
    .error (if (utf8 cs).length < 4 then .before .endInString [] else ⟨.invalidEscape, cs, 4⟩)

/-- A code unit that begins a pair of surrogates. -/
def isHighSurrogate (n : Nat) : Bool := 0xD800 ≤ n && n ≤ 0xDBFF

/-- A code unit that ends a pair of surrogates. -/
def isLowSurrogate (n : Nat) : Bool := 0xDC00 ≤ n && n ≤ 0xDFFF

/-- The character that a pair of surrogates stands for. -/
def pairChar (high low : Nat) : Char :=
  Char.ofNat ((high - 0xD800) * 0x400 + (low - 0xDC00) + 0x10000)

/-- Reads the escape of a low surrogate, after that of a high one. -/
def readLowSurrogate (high : Nat) (cs : List Char) : Except Stop (Char × List Char) :=
  match cs with
  | [] | ['\\'] => .error (.before .endInString [])
  | '\\' :: 'u' :: rest => do
    let (low, rest) ← readHex rest
    if isLowSurrogate low then return (pairChar high low, rest)
    else .error (.before .loneSurrogate rest)
  | '\\' :: rest => .error (.at .unpairedSurrogate rest)
  | _ => .error (.at .unpairedSurrogate cs)

/-- Reads a character written by its code units. A string that is skipped has each unit for a
character of its own. -/
def readUnicode (mode : Mode) (cs : List Char) : Except Stop (Char × List Char) := do
  let (n, rest) ← readHex cs
  match mode with
  | .skip => return (Char.ofNat n, rest)
  | .build _ =>
    if isLowSurrogate n then .error (.before .loneSurrogate rest)
    else if isHighSurrogate n then readLowSurrogate n rest
    else return (Char.ofNat n, rest)

/-- Reads what follows a backslash in a string. -/
def readEscape (mode : Mode) (cs : List Char) : Except Stop (Char × List Char) :=
  match cs with
  | [] => .error (.before .endInString [])
  | '"' :: rest => .ok ('"', rest)
  | '\\' :: rest => .ok ('\\', rest)
  | '/' :: rest => .ok ('/', rest)
  | 'b' :: rest => .ok ('\x08', rest)
  | 'f' :: rest => .ok ('\x0c', rest)
  | 'n' :: rest => .ok ('\n', rest)
  | 'r' :: rest => .ok ('\r', rest)
  | 't' :: rest => .ok ('\t', rest)
  | 'u' :: rest => readUnicode mode rest
  | _ => .error (.at .invalidEscape cs)

section lengths

variable {mode : Mode} {cs rest : List Char} {c : Char}

/-- Reading a word does not lengthen the text. -/
theorem readWord_length : ∀ {word cs : List Char}, readWord word cs = .ok rest →
    rest.length ≤ cs.length
  | [], _, h => by cases h; exact Nat.le_refl _
  | _ :: _, [], h => by cases h
  | w :: ws, c :: cs, h => by
    rw [readWord] at h
    split at h
    · exact Nat.le_succ_of_le (readWord_length h)
    · cases h

/-- Four digits are taken from the text. -/
theorem fourHexDigits?_length {n : Nat} (h : fourHexDigits? cs = some (n, rest)) :
    rest.length < cs.length := by
  unfold fourHexDigits? at h
  split at h
  · simp only [Option.bind_eq_bind, Option.bind_eq_some_iff, Option.pure_def,
      Option.some.injEq, Prod.mk.injEq] at h
    obtain ⟨_, _, _, _, _, _, _, _, _, rfl⟩ := h
    simp only [List.length_cons]
    omega
  · cases h

/-- A code unit takes characters from the text. -/
theorem readHex_length {n : Nat} (h : readHex cs = .ok (n, rest)) :
    rest.length < cs.length := by
  unfold readHex at h
  split at h
  · next heq => cases h; exact fourHexDigits?_length heq
  · cases h

/-- The second half of a pair takes characters from the text. -/
theorem readLowSurrogate_length {high : Nat} (h : readLowSurrogate high cs = .ok (c, rest)) :
    rest.length < cs.length := by
  unfold readLowSurrogate at h
  split at h
  · cases h
  · cases h
  · obtain ⟨⟨low, _⟩, hx, h⟩ := exists_of_bind_eq_ok h
    cases hl : isLowSurrogate low <;> simp only [hl, if_true, Bool.false_eq_true, if_false] at h
    · cases h
    · simp only [pure, Except.pure, Except.ok.injEq, Prod.mk.injEq] at h
      obtain ⟨_, rfl⟩ := h
      exact Nat.lt_succ_of_lt (Nat.lt_succ_of_lt (readHex_length hx))
  · cases h
  · cases h

/-- A character written by its code units takes characters from the text. -/
theorem readUnicode_length (h : readUnicode mode cs = .ok (c, rest)) :
    rest.length < cs.length := by
  obtain ⟨⟨_, _⟩, hx, h⟩ := exists_of_bind_eq_ok h
  have hlt := readHex_length hx
  cases mode with
  | skip => cases h; exact hlt
  | build =>
    dsimp only at h
    split at h
    · cases h
    · split at h
      · exact Nat.lt_trans (readLowSurrogate_length h) hlt
      · cases h; exact hlt

/-- An escape takes characters from the text, so that reading a string ends. -/
theorem readEscape_length (h : readEscape mode cs = .ok (c, rest)) :
    rest.length < cs.length := by
  unfold readEscape at h
  split at h
  case h_10 => exact Nat.lt_succ_of_lt (readUnicode_length h)
  all_goals first | (cases h; simp) | cases h

end lengths

/-- Reads the characters of a string after its opening quote, and the closing quote. A control
character is a fault, which counts as read when the string is wanted. -/
def readString (mode : Mode) (cs : List Char) : Except Stop (List Char × List Char) :=
  match cs with
  | [] => .error (.before .endInString [])
  | '"' :: rest => .ok ([], rest)
  | '\\' :: rest =>
    match h : readEscape mode rest with
    | .error stop => .error stop
    | .ok (c, after) => do
      have := readEscape_length h
      let (s, tail) ← readString mode after
      return (c :: s, tail)
  | c :: rest =>
    if c.toNat < 0x20 then
      match mode with
      | .build _ => .error (.at .controlCharacter (c :: rest))
      | .skip => .error (.before .controlCharacter (c :: rest))
    else do
      let (s, tail) ← readString mode rest
      return (c :: s, tail)
termination_by cs.length

/-- Reads a value that holds no others. -/
def readScalar (mode : Mode) (cs : List Char) : Except Stop (Json × List Char) :=
  match cs with
  | [] => .error (.at .endInValue [])
  | 'n' :: rest => do return (.null, ← readWord "ull".toList rest)
  | 't' :: rest => do return (.bool true, ← readWord "rue".toList rest)
  | 'f' :: rest => do return (.bool false, ← readWord "alse".toList rest)
  | '"' :: rest => do
    let (s, rest) ← readString mode rest
    return (.str (String.ofList s), rest)
  | '-' :: rest => do
    let (n, rest) ← readNumber mode true rest
    return (.num n, rest)
  | c :: _ =>
    if c.isDigit then do
      let (n, rest) ← readNumber mode false cs
      return (.num n, rest)
    else
      .error (.at .expectedValue cs)

section lengths

variable {mode : Mode} {cs rest : List Char}

/-- The characters of a string that are read, with its closing quote, shorten the text. -/
theorem readString_length {cs s rest : List Char} (h : readString mode cs = .ok (s, rest)) :
    rest.length < cs.length := by
  fun_induction readString mode cs generalizing s rest with
  | case1 => cases h
  | case2 => cases h; simp
  | case3 => cases h
  | case4 _ _ _ hesc hlt ih =>
    obtain ⟨⟨_, _⟩, hs, h⟩ := exists_of_bind_eq_ok h
    cases h
    exact Nat.lt_succ_of_lt (Nat.lt_trans (ih hs) hlt)
  | case5 => cases h
  | case6 => cases h
  | case7 _ _ _ _ _ ih =>
    obtain ⟨⟨_, _⟩, hs, h⟩ := exists_of_bind_eq_ok h
    cases h
    exact Nat.lt_succ_of_lt (ih hs)

/-- A scalar that is read shortens the text. -/
theorem readScalar_length {value : Json} (h : readScalar mode cs = .ok (value, rest)) :
    rest.length < cs.length := by
  unfold readScalar at h
  split at h
  · cases h
  · obtain ⟨_, hw, h⟩ := exists_of_bind_eq_ok h
    cases h; exact Nat.lt_succ_of_le (readWord_length hw)
  · obtain ⟨_, hw, h⟩ := exists_of_bind_eq_ok h
    cases h; exact Nat.lt_succ_of_le (readWord_length hw)
  · obtain ⟨_, hw, h⟩ := exists_of_bind_eq_ok h
    cases h; exact Nat.lt_succ_of_le (readWord_length hw)
  · obtain ⟨⟨_, _⟩, hs, h⟩ := exists_of_bind_eq_ok h
    cases h; exact Nat.lt_succ_of_lt (readString_length hs)
  · obtain ⟨⟨_, _⟩, hn, h⟩ := exists_of_bind_eq_ok h
    cases h; exact Nat.lt_succ_of_lt (readNumber_length hn)
  · split at h
    · obtain ⟨⟨_, _⟩, hn, h⟩ := exists_of_bind_eq_ok h
      cases h; exact readNumber_length hn
    · cases h

end lengths

end PayloadModels.Json
