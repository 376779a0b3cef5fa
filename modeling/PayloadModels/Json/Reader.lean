import PayloadModels.Json.Scalar

/-!
# Reading JSON

A text is read with the containers that are open around the place of reading (`Frame`): a value
is about to be read, or one has just been read and goes into the innermost container (`Task`).
Every step leaves less of the text, so reading ends (`readFrom`). Of an object's members with one
key the last value counts, at the place of the first.

The same reader serves values that are wanted and values that are skipped. It differs in a few
faults, and in the depth of containers, which is limited for values that are wanted only.
-/

namespace PayloadModels.Json

/-- An open container, and what has been read of it. -/
inductive Frame where
  /-- A list and its items so far, last first. -/
  | list (items : List Json)
  /-- An object, its members so far, and the key whose value comes next. -/
  | object (members : Members) (key : String)

/-- What is to be done at a place of the text. -/
inductive Task where
  /-- A value is to be read. -/
  | value
  /-- A value has been read, and is to go where it belongs. -/
  | place (value : Json)

/-- How many containers may be open inside each other. -/
def depthLimit : Nat := 127

/-- Whether no other container may be opened inside so many. -/
def Mode.isFull (mode : Mode) (frames : Nat) : Bool :=
  match mode with
  | build enclosing => depthLimit ≤ enclosing + frames
  | skip => false

/-- The fault of a comma before the end of a list, for what follows the comma. -/
def Mode.listComma (mode : Mode) (cs : List Char) : Except Stop Unit :=
  match mode, cs with
  | build _, ']' :: _ => .error (.at .trailingComma cs)
  | _, _ => .ok ()

/-- The fault of what follows a comma in an object when it is no key. -/
def Mode.objectComma (mode : Mode) (cs : List Char) : Except Stop Unit :=
  match mode, cs with
  | build _, '\x7d' :: _ => .error (.at .trailingComma cs)
  | build _, [] => .error (.at .endInValue [])
  | skip, [] => .error (.at .endInObject [])
  | _, _ => .ok ()

/-- Reads the key of a member. -/
def readKey (mode : Mode) (cs : List Char) : Except Stop (String × List Char) :=
  match cs with
  | '"' :: rest => do
    let (key, rest) ← readString mode rest
    return (String.ofList key, rest)
  | _ => .error (.at .keyNotString cs)

/-- Reads the colon after a key. -/
def readColon (cs : List Char) : Except Stop (List Char) :=
  match skipGap cs with
  | ':' :: rest => .ok rest
  | [] => .error (.at .endInObject [])
  | rest => .error (.at .expectedColon rest)

/-- Reads the key of a member and the colon after it. -/
def readKeyColon (mode : Mode) (cs : List Char) : Except Stop (String × List Char) := do
  let (key, rest) ← readKey mode cs
  return (key, ← readColon rest)

section lengths

variable {mode : Mode} {cs rest : List Char} {c : Char}

/-- Behind the first character after a gap, the text is shorter. -/
theorem length_lt_of_skipGap (h : skipGap cs = c :: rest) : rest.length < cs.length := by
  have := length_skipGap_le cs
  rw [h, List.length_cons] at this
  exact this

/-- A key takes characters from the text. -/
theorem readKey_length {key : String} (h : readKey mode cs = .ok (key, rest)) :
    rest.length < cs.length := by
  unfold readKey at h
  split at h
  · obtain ⟨⟨_, _⟩, hs, h⟩ := exists_of_bind_eq_ok h
    cases h
    exact Nat.lt_succ_of_lt (readString_length hs)
  · cases h

/-- A colon takes a character from the text. -/
theorem readColon_length (h : readColon cs = .ok rest) : rest.length < cs.length := by
  unfold readColon at h
  split at h
  · next heq => cases h; exact length_lt_of_skipGap heq
  · cases h
  · cases h

/-- A key and its colon take characters from the text. -/
theorem readKeyColon_length {key : String} (h : readKeyColon mode cs = .ok (key, rest)) :
    rest.length < cs.length := by
  obtain ⟨⟨_, _⟩, hk, h⟩ := exists_of_bind_eq_ok h
  obtain ⟨_, hc, h⟩ := exists_of_bind_eq_ok h
  cases h
  exact Nat.lt_trans (readColon_length hc) (readKey_length hk)

end lengths

/-- Goes on reading a text inside the open containers, innermost first, until the outermost value
is complete. -/
def readFrom (mode : Mode) (frames : List Frame) (task : Task) (cs : List Char) :
    Except Stop (Json × List Char) :=
  match task, frames with
  | .value, frames =>
    match hcs : skipGap cs with
    | '[' :: rest =>
      have := length_lt_of_skipGap hcs
      if mode.isFull frames.length then .error (.at .tooDeep ('[' :: rest))
      else
        match hrest : skipGap rest with
        | ']' :: after =>
          have := length_lt_of_skipGap hrest
          readFrom mode frames (.place (.arr [])) after
        | [] => .error (.at .endInList [])
        | _ => readFrom mode (.list [] :: frames) .value rest
    | '\x7b' :: rest =>
      have := length_lt_of_skipGap hcs
      if mode.isFull frames.length then .error (.at .tooDeep ('\x7b' :: rest))
      else
        match hrest : skipGap rest with
        | '\x7d' :: after =>
          have := length_lt_of_skipGap hrest
          readFrom mode frames (.place (.obj [])) after
        | [] => .error (.at .endInObject [])
        | start =>
          match hkey : readKeyColon mode start with
          | .error stop => .error stop
          | .ok (key, after) =>
            have := readKeyColon_length hkey
            have : start.length ≤ rest.length := hrest ▸ length_skipGap_le rest
            readFrom mode (.object [] key :: frames) .value after
    | start =>
      match hscalar : readScalar mode start with
      | .error stop => .error stop
      | .ok (value, after) =>
        have := readScalar_length hscalar
        have : start.length ≤ cs.length := hcs ▸ length_skipGap_le cs
        readFrom mode frames (.place value) after
  | .place value, [] => .ok (value, cs)
  | .place value, .list items :: outer =>
    match hcs : skipGap cs with
    | ',' :: rest =>
      have := length_lt_of_skipGap hcs
      match mode.listComma (skipGap rest) with
      | .error stop => .error stop
      | .ok () => readFrom mode (.list (value :: items) :: outer) .value rest
    | ']' :: rest =>
      have := length_lt_of_skipGap hcs
      readFrom mode outer (.place (.arr (value :: items).reverse)) rest
    | [] => .error (.at .endInList [])
    | rest => .error (.at .expectedListEnd rest)
  | .place value, .object members key :: outer =>
    match hcs : skipGap cs with
    | ',' :: rest =>
      have := length_lt_of_skipGap hcs
      match mode.objectComma (skipGap rest) with
      | .error stop => .error stop
      | .ok () =>
        match hkey : readKeyColon mode (skipGap rest) with
        | .error stop => .error stop
        | .ok (next, after) =>
          have := readKeyColon_length hkey
          have := length_skipGap_le rest
          readFrom mode (.object (members.set key value) next :: outer) .value after
    | '\x7d' :: rest =>
      have := length_lt_of_skipGap hcs
      readFrom mode outer (.place (.obj (members.set key value))) rest
    | [] => .error (.at .endInObject [])
    | rest => .error (.at .expectedObjectEnd rest)
termination_by cs.length

/-- Reading goes forward: what is left is a part of the text, and less than the whole of it when
a value had to be read. -/
theorem readFrom_length {mode : Mode} {frames : List Frame} {task : Task} {cs rest : List Char}
    {value : Json} (h : readFrom mode frames task cs = .ok (value, rest)) :
    rest.length ≤ cs.length ∧ (task = .value → rest.length < cs.length) := by
  fun_induction readFrom mode frames task cs
  case case12 => cases h; exact ⟨Nat.le_refl _, nofun⟩
  all_goals first
    | contradiction
    | (rename_i ih
       have := (ih h).1
       exact ⟨by omega, fun _ => by omega⟩)

/-- Reads one value. -/
def readValue (mode : Mode) (cs : List Char) : Except Stop (Json × List Char) :=
  readFrom mode [] .value cs

/-- A value takes characters from the text, so that a reader of several values ends. -/
theorem readValue_length {mode : Mode} {cs rest : List Char} {value : Json}
    (h : readValue mode cs = .ok (value, rest)) : rest.length < cs.length :=
  (readFrom_length h).2 rfl

/-- The fault of a value that is not what was expected, at the value's beginning when it is a
container and after it when it is a scalar. -/
def refuse (expected : Expected) (cs : List Char) : Stop :=
  match cs with
  | '[' :: _ => .before (.mismatch .sequence expected) cs
  | '\x7b' :: _ => .before (.mismatch .map expected) cs
  | _ =>
    match readScalar (.build 0) cs with
    | .ok (value, rest) => .before (.mismatch value.shape expected) rest
    | .error stop => stop

/-- Reads the members of an object. -/
def readMembers (mode : Mode) (cs : List Char) : Except Stop (Members × List Char) :=
  match skipGap cs with
  | '\x7b' :: rest => do
    match ← readValue mode ('\x7b' :: rest) with
    | (.obj members, rest) => return (members, rest)
    | (value, rest) => .error (.before (.mismatch value.shape .map) rest)
  | rest => .error (refuse .map rest)

/-- The members of an object take characters from the text. -/
theorem readMembers_length {mode : Mode} {cs rest : List Char} {members : Members}
    (h : readMembers mode cs = .ok (members, rest)) : rest.length < cs.length := by
  unfold readMembers at h
  split at h
  · next heq =>
    obtain ⟨⟨value, tail⟩, hv, h⟩ := exists_of_bind_eq_ok h
    have hlt := readValue_length hv
    rw [← heq] at hlt
    cases value <;> cases h
    exact Nat.lt_of_lt_of_le hlt (length_skipGap_le _)
  · cases h

/-- The outcome of reading a whole text: only blanks may follow, and a fault has its place. -/
def readWhole? {α : Type} (read : List Char → Except Stop (α × List Char)) (text : String) :
    Except Fault α :=
  let whole := do
    let (value, rest) ← read text.toList
    match skipGap rest with
    | [] => return value
    | rest => .error (.at .trailingCharacters rest)
  whole.mapError (·.locate text.toList)

/-- The value that a text writes. -/
def parse (text : String) : Except Fault Json := readWhole? (readValue (.build 0)) text

/-- The members of the object that a text writes. -/
def parseMembers (text : String) : Except Fault Members :=
  readWhole? (readMembers (.build 0)) text

end PayloadModels.Json
