import PayloadModels.Records.MatrixOptions

/-!
# Reading purchase options from text

The record is decoded while its text is read, so the first fault of either kind is the one that
is reported: a value that its field does not take stops the reader before the rest of the text is
looked at. Members with unknown keys are skipped.
-/

namespace PayloadModels.MatrixOptions

open Json

/-- Reads the objects of a list after its opening bracket or a comma, where `before` are the
objects so far, last first. -/
def readObjectsFrom (before : List Members) (cs : List Char) :
    Except Stop (List Members × List Char) :=
  match h : readMembers (.build 2) cs with
  | .error stop => .error stop
  | .ok (members, after) =>
    have := readMembers_length h
    match hafter : skipGap after with
    | ',' :: rest =>
      have := length_lt_of_skipGap hafter
      match Mode.listComma (.build 2) (skipGap rest) with
      | .error stop => .error stop
      | .ok () => readObjectsFrom (members :: before) rest
    | ']' :: rest => .ok ((members :: before).reverse, rest)
    | [] => .error (.at .endInList [])
    | rest => .error (.at .expectedListEnd rest)
termination_by cs.length

/-- Reads the objects of a list after its opening bracket. -/
def readObjects (cs : List Char) : Except Stop (List Members × List Char) :=
  match skipGap cs with
  | ']' :: rest => .ok ([], rest)
  | [] => .error (.at .endInList [])
  | _ => readObjectsFrom [] cs

/-- Whether a container opens here. -/
def opensContainer : List Char → Bool
  | '[' :: _ | '\x7b' :: _ => true
  | _ => false

/-- Reads the value of a field that is a scalar; a container is refused. -/
def readScalarField (kind : FieldKind) (cs : List Char) :
    Except Stop (kind.Value × List Char) :=
  if opensContainer cs then .error (refuse kind.expected cs)
  else do
    let (value, rest) ← readScalar (.build 1) cs
    match kind.decodeField value with
    | .ok value => return (value, rest)
    | .error cause => .error (.before cause rest)

/-- Reads the value of a field. -/
def readField (kind : FieldKind) (cs : List Char) : Except Stop (kind.Value × List Char) :=
  match kind with
  | .object =>
    match skipGap cs with
    | '\x7b' :: rest => do
      let (members, rest) ← readMembers (.build 1) ('\x7b' :: rest)
      return ((some members : Option Members), rest)
    | start => readScalarField .object start
  | .objects =>
    match skipGap cs with
    | '[' :: rest => do
      let (objects, rest) ← readObjects rest
      return (objects, rest)
    | start => readScalarField .objects start
  | kind => readScalarField kind (skipGap cs)

/-- A record of which some fields have been read. -/
structure Draft where
  options : MatrixOptions
  seen : List Field

/-- The record of which nothing has been read. -/
def Draft.empty : Draft := ⟨default, []⟩

/-- Reads the value of a field into the record. -/
def Draft.readValue (draft : Draft) (field : Field) (cs : List Char) :
    Except Stop (Draft × List Char) := do
  let (value, rest) ← readField field.kind cs
  return (⟨draft.options.set field value, field :: draft.seen⟩, rest)

/-- Reads what follows a key: the value of its field, or one that is skipped. -/
def Draft.readMember (draft : Draft) (key : String) (cs : List Char) :
    Except Stop (Draft × List Char) :=
  match Field.ofKey? key with
  | none => do
    let (_, rest) ← Json.readValue .skip (← readColon cs)
    return (draft, rest)
  | some field =>
    if field ∈ draft.seen then .error (.before (.duplicateField key) cs)
    else do draft.readValue field (← readColon cs)

section lengths

variable {cs rest : List Char}

/-- The rest of a list of objects takes characters from the text. -/
theorem readObjectsFrom_length {before objects : List Members}
    (h : readObjectsFrom before cs = .ok (objects, rest)) : rest.length < cs.length := by
  fun_induction readObjectsFrom before cs
  case case4 hafter =>
    cases h
    have := length_lt_of_skipGap hafter
    omega
  all_goals first
    | contradiction
    | (rename_i ih
       have := ih h
       omega)

/-- A list of objects takes characters from the text. -/
theorem readObjects_length {objects : List Members}
    (h : readObjects cs = .ok (objects, rest)) : rest.length < cs.length := by
  unfold readObjects at h
  split at h
  · next heq => cases h; exact length_lt_of_skipGap heq
  · cases h
  · exact readObjectsFrom_length h

/-- A scalar takes characters from the text. -/
theorem readScalarField_length {kind : FieldKind} {value : kind.Value}
    (h : readScalarField kind cs = .ok (value, rest)) : rest.length < cs.length := by
  unfold readScalarField at h
  split at h
  · cases h
  · obtain ⟨⟨_, _⟩, hs, h⟩ := exists_of_bind_eq_ok h
    have := readScalar_length hs
    dsimp only at h
    split at h
    · cases h; exact this
    · cases h

/-- The value of a field takes characters from the text. -/
theorem readField_length {kind : FieldKind} {value : kind.Value}
    (h : readField kind cs = .ok (value, rest)) : rest.length < cs.length := by
  have hgap := length_skipGap_le cs
  cases kind <;> dsimp only [readField] at h
  case object =>
    split at h
    · next heq =>
      obtain ⟨⟨_, _⟩, hm, h⟩ := exists_of_bind_eq_ok h
      cases h
      have := readMembers_length hm
      rw [← heq] at this
      exact Nat.lt_of_lt_of_le this hgap
    · exact Nat.lt_of_lt_of_le (readScalarField_length h) hgap
  case objects =>
    split at h
    · next heq =>
      obtain ⟨⟨_, _⟩, ho, h⟩ := exists_of_bind_eq_ok h
      cases h
      exact Nat.lt_trans (readObjects_length ho) (length_lt_of_skipGap heq)
    · exact Nat.lt_of_lt_of_le (readScalarField_length h) hgap
  all_goals exact Nat.lt_of_lt_of_le (readScalarField_length h) hgap

/-- Reading a field's value takes characters from the text. -/
theorem Draft.readValue_length {draft next : Draft} {field : Field}
    (h : draft.readValue field cs = .ok (next, rest)) : rest.length < cs.length := by
  obtain ⟨⟨_, _⟩, hf, h⟩ := exists_of_bind_eq_ok h
  cases h
  exact readField_length hf

/-- Reading a member takes characters from the text, so that reading an object ends. -/
theorem Draft.readMember_length {draft next : Draft} {key : String}
    (h : draft.readMember key cs = .ok (next, rest)) : rest.length < cs.length := by
  unfold Draft.readMember at h
  split at h
  · obtain ⟨_, hc, h⟩ := exists_of_bind_eq_ok h
    obtain ⟨⟨_, _⟩, hv, h⟩ := exists_of_bind_eq_ok h
    cases h
    exact Nat.lt_trans (Json.readValue_length hv) (readColon_length hc)
  · split at h
    · cases h
    · obtain ⟨_, hc, h⟩ := exists_of_bind_eq_ok h
      exact Nat.lt_trans (Draft.readValue_length h) (readColon_length hc)

end lengths

/-- Reads the members of a record that is written as an object, from a key on. -/
def Draft.readMembersFrom (draft : Draft) (cs : List Char) :
    Except Stop (MatrixOptions × List Char) :=
  match hkey : readKey (.build 1) cs with
  | .error stop => .error stop
  | .ok (key, value) =>
    match hmember : draft.readMember key value with
    | .error stop => .error stop
    | .ok (draft, after) =>
      have := readKey_length hkey
      have := Draft.readMember_length hmember
      match hafter : skipGap after with
      | ',' :: rest =>
        have := length_lt_of_skipGap hafter
        have := length_skipGap_le rest
        match Mode.objectComma (.build 1) (skipGap rest) with
        | .error stop => .error stop
        | .ok () => draft.readMembersFrom (skipGap rest)
      | '\x7d' :: rest => .ok (draft.options, rest)
      | [] => .error (.at .endInObject [])
      | rest => .error (.at .expectedObjectEnd rest)
termination_by cs.length

/-- Reads the end of a record that is written as an array, after its last field. -/
def readArrayEnd (options : MatrixOptions) (cs : List Char) :
    Except Stop (MatrixOptions × List Char) :=
  match skipGap cs with
  | ']' :: rest => .ok (options, rest)
  | ',' :: rest =>
    match skipGap rest with
    | ']' :: rest => .error (.at .trailingComma (']' :: rest))
    | rest => .error (.at .trailingCharacters rest)
  | [] => .error (.at .endInList [])
  | rest => .error (.at .trailingCharacters rest)

/-- Reads the fields of a record that is written as an array, after the first. -/
def Draft.readElements (draft : Draft) : List Field → List Char →
    Except Stop (MatrixOptions × List Char)
  | [], cs => readArrayEnd draft.options cs
  | field :: fields, cs =>
    match skipGap cs with
    | ']' :: rest => .ok (draft.options, rest)
    | ',' :: rest => do
      Mode.listComma (.build 1) (skipGap rest)
      let (draft, rest) ← draft.readValue field rest
      draft.readElements fields rest
    | [] => .error (.at .endInList [])
    | rest => .error (.at .expectedListEnd rest)

/-- Reads the fields of a record that is written as an array, after the opening bracket. -/
def readArray (cs : List Char) : Except Stop (MatrixOptions × List Char) :=
  match skipGap cs with
  | ']' :: rest => .ok (default, rest)
  | [] => .error (.at .endInList [])
  | _ => do
    let (draft, rest) ← Draft.empty.readValue .autoship cs
    draft.readElements (Field.all.drop 1) rest

/-- Reads the members of a record that is written as an object, after the opening bracket. -/
def readObject (cs : List Char) : Except Stop (MatrixOptions × List Char) :=
  match skipGap cs with
  | '\x7d' :: rest => .ok (default, rest)
  | [] => .error (.at .endInObject [])
  | start => Draft.empty.readMembersFrom start

/-- Reads a record. -/
def read (cs : List Char) : Except Stop (MatrixOptions × List Char) :=
  match skipGap cs with
  | '[' :: rest => readArray rest
  | '\x7b' :: rest => readObject rest
  | start => .error (refuse (.record recordName) start)

/-- The record that a text writes. -/
def parse (text : String) : Except Fault MatrixOptions := Json.readWhole? read text

/-- Decodes the record that a text writes. -/
def decodeText (text : String) : Except Error MatrixOptions :=
  (parse text).mapError fun fault => .recordUndecodable recordName fault.describe

end PayloadModels.MatrixOptions
