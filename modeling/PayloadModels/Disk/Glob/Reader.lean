import PayloadModels.Disk.Glob.WellFormed

/-!
# Reading patterns

`Glob.parse` reads the text of a pattern and refuses a malformed one. The text is cut into signs
(`cutSigns`). Flags in it, which tell whether the case of letters counts, go over to the signs after
them (`mark`); stars and slashes are read as elements (`readParts`); and what stands between braces
or angle brackets is put into groups (`group`).
-/

namespace PayloadModels.Glob

/-! ## Signs -/

/-- What a pattern is cut into. -/
inductive Sign where
  | character (c : Char)
  | slash
  | question
  /-- What stands for any characters of a name. -/
  | star
  | doubleStar
  | inClass (negated : Bool) (ranges : List Range)
  /-- Whether the case of the letters after it counts no more. -/
  | flag (anyCase : Bool)
  | openBrace
  | comma
  | closeBrace
  | openAngle
  | closeAngle (least : Nat) (most : Option Nat)
  deriving DecidableEq, Repr

/-- Cuts a text at a character that it must hold. -/
def cutAt (close : Char) : List Char → Option (List Char × List Char)
  | [] => none
  | c :: cs =>
    if c = close then some ([], cs)
    else (cutAt close cs).map fun (inside, after) => (c :: inside, after)

/-- What follows a closing sign is shorter than the text, so that reading groups ends. -/
theorem cutAt_length {close : Char} {cs inside after : List Char}
    (h : cutAt close cs = some (inside, after)) : after.length < cs.length := by
  induction cs generalizing inside with
  | nil => simp [cutAt] at h
  | cons c cs ih =>
    unfold cutAt at h
    split at h
    · simp only [Option.some.injEq, Prod.mk.injEq] at h
      simp [h.2]
    · obtain ⟨⟨i, a⟩, hi, h⟩ := Option.map_eq_some_iff.1 h
      simp only [Prod.mk.injEq] at h
      have := ih (h.2 ▸ hi)
      simp only [List.length_cons]
      omega

/-- The ranges of a class between its brackets, if it is well formed. -/
def readRanges : List Char → Option (List Range)
  | [] => some []
  | first :: '-' :: last :: rest =>
    if first ∈ ['-', '['] ∨ last ∈ ['-', '['] then none
    else (readRanges rest).map (⟨first, last⟩ :: ·)
  | c :: rest => if c ∈ ['-', '['] then none else (readRanges rest).map (⟨c, c⟩ :: ·)

/-- The class between brackets, if it is well formed and not empty. -/
def readClass (text : List Char) : Option Sign :=
  let (negated, text) := match text with
    | '!' :: rest => (true, rest)
    | text => (false, text)
  match readRanges text with
  | none | some [] => none
  | some ranges => some (.inClass negated ranges)

/-- The flag between parentheses, after the question mark. The last of several letters counts. -/
def readFlag : List Char → Option Sign
  | ['i'] => some (.flag true)
  | ['-', 'i'] => some (.flag false)
  | 'i' :: rest => readFlag rest
  | '-' :: 'i' :: rest => readFlag rest
  | _ => none

/-- A number of times, which has to fit a machine word. -/
def readTimes (digits : List Char) : Option Nat :=
  let times := digits.foldl (fun n c => 10 * n + (c.toNat - '0'.toNat)) 0
  if !digits.isEmpty && digits.all Char.isDigit && times < 18446744073709551616 then some times
  else none

/-- How often a group is repeated, between its colon and its bracket: at least once when nothing is
written there. -/
def readBounds (text : List Char) : Option Sign :=
  match cutAt ',' text with
  | some (least, []) => (readTimes least).map (.closeAngle · none)
  | some (least, most) => do return .closeAngle (← readTimes least) (some (← readTimes most))
  | none =>
    if text.isEmpty then some (.closeAngle 1 none)
    else (readTimes text).map fun times => .closeAngle times (some times)

/-- The characters that mean something in a pattern and cannot stand for themselves. -/
def isReserved (c : Char) : Bool := c ∈ [']', '(', ')', ':', '>']

/-- Cuts a pattern into signs. -/
def cutSigns : List Char → Option (List Sign)
  | [] => some []
  | '/' :: rest => (cutSigns rest).map (.slash :: ·)
  | '*' :: '*' :: rest => (cutSigns rest).map (.doubleStar :: ·)
  | '*' :: rest => (cutSigns rest).map (.star :: ·)
  | '$' :: rest => (cutSigns rest).map (.star :: ·)
  | '(' :: '?' :: rest =>
    match h : cutAt ')' rest with
    | none => none
    | some (inside, after) =>
      have := cutAt_length h
      (readFlag inside).bind fun sign => (cutSigns after).map (sign :: ·)
  | '?' :: rest => (cutSigns rest).map (.question :: ·)
  | '[' :: rest =>
    match h : cutAt ']' rest with
    | none => none
    | some (inside, after) =>
      have := cutAt_length h
      (readClass inside).bind fun sign => (cutSigns after).map (sign :: ·)
  | '{' :: rest => (cutSigns rest).map (.openBrace :: ·)
  | ',' :: rest => (cutSigns rest).map (.comma :: ·)
  | '}' :: rest => (cutSigns rest).map (.closeBrace :: ·)
  | '<' :: rest => (cutSigns rest).map (.openAngle :: ·)
  | '>' :: rest => (cutSigns rest).map (.closeAngle 0 none :: ·)
  | ':' :: rest =>
    match h : cutAt '>' rest with
    | none => none
    | some (inside, after) =>
      have := cutAt_length h
      (readBounds inside).bind fun sign => (cutSigns after).map (sign :: ·)
  | c :: rest => if isReserved c then none else (cutSigns rest).map (.character c :: ·)
termination_by cs => cs.length
decreasing_by all_goals (simp only [List.length_cons]; omega)

/-! ## Elements and the groups they are in -/

/-- An element, or what begins, divides or ends a group of elements. -/
inductive Part where
  | element (element : Element)
  | openBrace
  | comma
  | closeBrace
  | openAngle
  | closeAngle (least : Nat) (most : Option Nat)
  deriving Repr

/-- Whether a sign ends a pattern in a group. -/
def Sign.endsBranch : Sign → Bool
  | .comma | .closeBrace | .closeAngle _ _ => true
  | _ => false

/-- The signs other than flags, each with whether its case counts no more. A flag must have
something after it in its group. -/
def mark (anyCase afterFlag : Bool) : List Sign → Option (List (Sign × Bool))
  | [] => if afterFlag then none else some []
  | .flag anyCase :: signs => mark anyCase true signs
  | sign :: signs =>
    if afterFlag && sign.endsBranch then none
    else (mark anyCase false signs).map ((sign, anyCase) :: ·)

/-- What stands before a sign, as far as double stars ask for it. -/
inductive Before where
  /-- Nothing: the pattern or one in a group begins. -/
  | start
  /-- A slash that goes with the double star after it. -/
  | slash
  /-- A double star, which a slash may follow. -/
  | doubleStar
  | other
  deriving DecidableEq, Repr

/-- Reads signs as elements. A double star stands at the beginning or after a slash, and at the end
or before a slash, and the slashes go with it. Two stars may not meet. -/
def readParts (before : Before) : List (Sign × Bool) → Option (List Part)
  | [] => some []
  | (sign, anyCase) :: signs =>
    let next := signs.head?.map (·.1)
    let proceed := fun (before : Before) (part : Part) =>
      (readParts before signs).map (part :: ·)
    match sign with
    | .character c => proceed .other (.element (.character c anyCase))
    | .slash =>
      if before = .doubleStar then readParts .other signs
      else if next = some .doubleStar then readParts .slash signs
      else proceed .other (.element .slash)
    | .question => proceed .other (.element .one)
    | .star =>
      if next = some .star ∨ next = some .doubleStar then none
      else proceed .other (.element .many)
    | .doubleStar =>
      if (before = .start ∨ before = .slash) ∧ next.all (fun s => s = .slash || s.endsBranch) then
        proceed .doubleStar (.element (.tree (before = .slash)))
      else
        none
    | .inClass negated ranges => proceed .other (.element (.inClass negated ranges))
    | .flag _ => none
    | .openBrace => proceed .start .openBrace
    | .comma => proceed .start .comma
    | .closeBrace => proceed .other .closeBrace
    | .openAngle => proceed .start .openAngle
    | .closeAngle least most => proceed .other (.closeAngle least most)

/-- A group that is open, with the elements before it. -/
inductive OpenGroup where
  /-- Braces, and the patterns between them so far. -/
  | braces (before : List Element) (branches : List (List Element))
  | angles (before : List Element)

/-- Puts elements into groups, after the elements `current` of the innermost open group. No pattern
in a group is empty. -/
def group (groups : List OpenGroup) (current : List Element) : List Part → Option (List Element)
  | [] => if groups.isEmpty then some current else none
  | .element element :: parts => group groups (current ++ [element]) parts
  | .openBrace :: parts => group (.braces current [] :: groups) [] parts
  | .openAngle :: parts => group (.angles current :: groups) [] parts
  | part :: parts =>
    if current.isEmpty then none
    else
      match part, groups with
      | .comma, .braces before branches :: groups =>
        group (.braces before (branches ++ [current]) :: groups) [] parts
      | .closeBrace, .braces before branches :: groups =>
        group groups (before ++ [.oneOf (branches ++ [current])]) parts
      | .closeAngle least most, .angles before :: groups =>
        group groups (before ++ [.repeated current least most]) parts
      | _, _ => none

/-- The pattern that a text writes, if it is well formed. -/
def parse (text : String) : Option Glob := do
  let signs ← mark false false (← cutSigns text.toList)
  let glob ← group [] [] (← readParts .start signs)
  if !glob.isEmpty && isWellFormed glob then return glob else none

end PayloadModels.Glob
