import Mathlib.Data.List.DropRight
import PayloadModels.Json.Reader
import PayloadModels.Proofs.Fallible

/-!
# Reading by descent

The reader keeps the containers that are open around the place of reading. Reading inside them is
reading a value on its own, so many containers deep, and then going on with the containers
(`readFrom_append`). The depth counts for the limit only: strings, scalars and keys are read alike
at any depth. The steps of the reader are stated here without the bounds that its recursion rests
on (`readFrom_value`, `readFrom_place_list`, `readFrom_place_object`).
-/

namespace PayloadModels.Json

variable {mode : Mode} {frames outer : List Frame} {task : Task} {cs rest : List Char}
  {value : Json} {c : Char} {depth : Nat}

/-! ## Strings and scalars at any depth -/

/-- Reading a string goes on behind an escape. -/
theorem readString_escape (mode : Mode) (rest : List Char) :
    readString mode ('\\' :: rest) = (readEscape mode rest).bind fun found =>
      (readString mode found.2).map fun read => (found.1 :: read.1, read.2) := by
  rw [readString]
  split
  · next h => simp only [h, Except.bind]
  · next h =>
    simp only [h, Except.bind]
    cases readString mode _ <;> rfl

/-- Every other character stands for itself, save the control characters. -/
theorem readString_cons (h : c ≠ '"') (h' : c ≠ '\\') :
    readString mode (c :: rest) = if c.toNat < 0x20 then
        match mode with
        | .build _ => .error (.at .controlCharacter (c :: rest))
        | .skip => .error (.before .controlCharacter (c :: rest))
      else (readString mode rest).map fun read => (c :: read.1, read.2) := by
  rw [readString.eq_def]
  split
  · contradiction
  · next heq =>
    cases heq
    exact absurd rfl h
  · next heq =>
    cases heq
    exact absurd rfl h'
  · next heq =>
    cases heq
    refine if_congr Iff.rfl rfl ?_
    cases readString mode rest <;> rfl

/-- Strings are read alike at any depth. -/
theorem readString_build (depth : Nat) (cs : List Char) :
    readString (.build depth) cs = readString (.build 0) cs := by
  fun_induction readString (.build 0) cs with
  | case1 => rw [readString]
  | case2 => rw [readString]
  | case3 rest stop h =>
    have h : readEscape (.build depth) rest = .error stop := h
    rw [readString_escape, h]
    rfl
  | case4 rest c after h hlt ih =>
    have h : readEscape (.build depth) rest = .ok (c, after) := h
    rw [readString_escape, h, ← ih]
    show Except.map _ (readString (.build depth) after) = _
    cases readString (.build depth) after <;> rfl
  | case5 c rest h h' hc => rw [readString_cons h h', if_pos hc]
  | case6 => contradiction
  | case7 c rest h h' hc ih =>
    rw [readString_cons h h', if_neg hc, ih]
    cases readString (.build 0) rest <;> rfl

/-- Scalars are read alike at any depth. -/
theorem readScalar_build (depth : Nat) (cs : List Char) :
    readScalar (.build depth) cs = readScalar (.build 0) cs := by
  rw [readScalar.eq_def, readScalar.eq_def (.build 0)]
  simp only [readString_build depth]
  rfl

/-- Keys are read alike at any depth. -/
theorem readKey_build (depth : Nat) (cs : List Char) :
    readKey (.build depth) cs = readKey (.build 0) cs := by
  rw [readKey.eq_def, readKey.eq_def (.build 0)]
  simp only [readString_build depth]

/-- Keys and their colons are read alike at any depth. -/
theorem readKeyColon_build (depth : Nat) (cs : List Char) :
    readKeyColon (.build depth) cs = readKeyColon (.build 0) cs := by
  rw [readKeyColon, readKeyColon, readKey_build]

/-- A comma in a list means the same at any depth. -/
theorem listComma_build (depth : Nat) (cs : List Char) :
    Mode.listComma (.build depth) cs = Mode.listComma (.build 0) cs := by
  rcases cs with _ | ⟨c, cs⟩
  · rfl
  · by_cases hc : c = ']'
    · rw [hc]; rfl
    · simp [Mode.listComma, hc]

/-- A comma in an object means the same at any depth. -/
theorem objectComma_build (depth : Nat) (cs : List Char) :
    Mode.objectComma (.build depth) cs = Mode.objectComma (.build 0) cs := by
  rcases cs with _ | ⟨c, cs⟩
  · rfl
  · by_cases hc : c = '\x7d'
    · rw [hc]; rfl
    · simp [Mode.objectComma, hc]

/-! ## Steps -/

/-- A value is read at the first character that is no gap. -/
theorem readFrom_value (mode : Mode) (frames : List Frame) (cs : List Char) :
    readFrom mode frames .value cs = match skipGap cs with
      | '[' :: rest =>
        if mode.isFull frames.length then .error (.at .tooDeep ('[' :: rest))
        else match skipGap rest with
          | ']' :: after => readFrom mode frames (.place (.arr [])) after
          | [] => .error (.at .endInList [])
          | _ => readFrom mode (.list [] :: frames) .value rest
      | '\x7b' :: rest =>
        if mode.isFull frames.length then .error (.at .tooDeep ('\x7b' :: rest))
        else match skipGap rest with
          | '\x7d' :: after => readFrom mode frames (.place (.obj [])) after
          | [] => .error (.at .endInObject [])
          | start => (readKeyColon mode start).bind fun found =>
            readFrom mode (.object [] found.1 :: frames) .value found.2
      | start => (readScalar mode start).bind fun found =>
        readFrom mode frames (.place found.1) found.2 := by
  rw [readFrom]
  split
  · next heq =>
    simp only [heq]
    split
    · rfl
    · split <;> simp_all
  · next heq =>
    simp only [heq]
    split
    · rfl
    · split
      · simp_all
      · simp_all
      · split <;> simp_all [Except.bind]
  · split <;> simp_all [Except.bind]

/-- Behind a gap there is no gap. -/
theorem skipGap_skipGap (cs : List Char) : skipGap (skipGap cs) = skipGap cs :=
  List.dropWhile_idempotent isGap cs

/-- The blanks before a value are passed over. -/
theorem readValue_skipGap (mode : Mode) (cs : List Char) :
    readValue mode (skipGap cs) = readValue mode cs := by
  rw [readValue, readValue, readFrom_value, readFrom_value mode [] cs, skipGap_skipGap]

@[simp] theorem readFrom_place_nil : readFrom mode [] (.place value) cs = .ok (value, cs) := by
  rw [readFrom]

/-- An item is put into the innermost list, which goes on or ends behind it. -/
theorem readFrom_place_list (items : List Json) :
    readFrom mode (.list items :: outer) (.place value) cs = match skipGap cs with
      | ',' :: rest => (mode.listComma (skipGap rest)).bind fun _ =>
        readFrom mode (.list (value :: items) :: outer) .value rest
      | ']' :: rest => readFrom mode outer (.place (.arr (value :: items).reverse)) rest
      | [] => .error (.at .endInList [])
      | rest => .error (.at .expectedListEnd rest) := by
  rw [readFrom]
  split
  · next heq =>
    simp only [heq]
    split <;> simp_all [Except.bind]
  all_goals simp_all

/-- The value of a key is put into the innermost object, which goes on or ends behind it. -/
theorem readFrom_place_object (members : Members) (key : String) :
    readFrom mode (.object members key :: outer) (.place value) cs = match skipGap cs with
      | ',' :: rest => (mode.objectComma (skipGap rest)).bind fun _ =>
        (readKeyColon mode (skipGap rest)).bind fun found =>
          readFrom mode (.object (members.set key value) found.1 :: outer) .value found.2
      | '\x7d' :: rest => readFrom mode outer (.place (.obj (members.set key value))) rest
      | [] => .error (.at .endInObject [])
      | rest => .error (.at .expectedObjectEnd rest) := by
  rw [readFrom]
  split
  · next heq =>
    simp only [heq]
    split
    · next hcomma => simp only [hcomma, Except.bind]
    · next hcomma =>
      simp only [hcomma, Except.bind]
      split <;> simp_all
  all_goals simp_all

/-! ## Inside open containers -/

/-- A container may be opened while the limit is not reached. -/
theorem isFull_nil (h : depth < depthLimit) : (Mode.build depth).isFull 0 = false := by
  simpa [Mode.isFull] using h

/-- Open containers count alike whether they are read here or enclose what is read. -/
theorem isFull_build (enclosing depth frames : Nat) :
    (Mode.build (enclosing + depth)).isFull frames
      = (Mode.build enclosing).isFull (frames + depth) := by
  simp only [Mode.isFull, Nat.add_assoc, Nat.add_comm depth]

/-- Reading inside containers is reading on its own, so many containers deep, and then going on
with the containers. -/
theorem readFrom_append (enclosing : Nat) (frames outer : List Frame) (task : Task)
    (cs : List Char) : readFrom (.build enclosing) (frames ++ outer) task cs
      = (readFrom (.build (enclosing + outer.length)) frames task cs).bind fun found =>
        readFrom (.build enclosing) outer (.place found.1) found.2 := by
  induction hn : cs.length using Nat.strongRecOn generalizing frames task cs with
  | ind n ih =>
    subst hn
    cases task with
    | value =>
      rw [readFrom_value, readFrom_value, isFull_build, ← List.length_append]
      split
      · next rest hopen =>
        have hrest := length_lt_of_skipGap hopen
        split
        · rfl
        · split
          · next hclose => exact ih _ (Nat.lt_trans (length_lt_of_skipGap hclose) hrest) _ _ _ rfl
          · rfl
          · exact ih _ hrest (_ :: _) _ _ rfl
      · next rest hopen =>
        have hrest := length_lt_of_skipGap hopen
        split
        · rfl
        · split
          · next hclose => exact ih _ (Nat.lt_trans (length_lt_of_skipGap hclose) hrest) _ _ _ rfl
          · rfl
          · rw [readKeyColon_build, readKeyColon_build (enclosing + _), bind_bind]
            cases hkey : readKeyColon (.build 0) (skipGap rest) with
            | error stop => rfl
            | ok found =>
              have hkey := readKeyColon_length hkey
              have hgap := length_skipGap_le rest
              exact ih _ (by omega) (_ :: _) _ _ rfl
      · rw [readScalar_build, readScalar_build (enclosing + _), bind_bind]
        cases hscalar : readScalar (.build 0) (skipGap cs) with
        | error stop => rfl
        | ok found =>
          have hscalar := readScalar_length hscalar
          have hgap := length_skipGap_le cs
          exact ih _ (by omega) _ _ _ rfl
    | place value =>
      cases frames with
      | nil => rw [readFrom_place_nil]; rfl
      | cons frame frames =>
        cases frame with
        | list items =>
          rw [List.cons_append, readFrom_place_list, readFrom_place_list]
          split
          · next hcomma =>
            rw [listComma_build, listComma_build (enclosing + _), bind_bind]
            refine congrArg (Except.bind _) (funext fun _ => ?_)
            exact ih _ (length_lt_of_skipGap hcomma) (_ :: _) _ _ rfl
          · next hclose => exact ih _ (length_lt_of_skipGap hclose) _ _ _ rfl
          · rfl
          · rfl
        | object members key =>
          rw [List.cons_append, readFrom_place_object, readFrom_place_object]
          split
          · next rest hcomma =>
            have hrest := length_lt_of_skipGap hcomma
            rw [readKeyColon_build, readKeyColon_build (enclosing + _), objectComma_build,
              objectComma_build (enclosing + _), bind_bind]
            refine congrArg (Except.bind _) (funext fun _ => ?_)
            rw [bind_bind]
            cases hkey : readKeyColon (.build 0) (skipGap rest) with
            | error stop => rfl
            | ok found =>
              have hkey := readKeyColon_length hkey
              have hgap := length_skipGap_le rest
              exact ih _ (by omega) (_ :: _) _ _ rfl
          · next hclose => exact ih _ (length_lt_of_skipGap hclose) _ _ _ rfl
          · rfl
          · rfl

/-- A value in an innermost container is read on its own. -/
theorem readFrom_frame (depth : Nat) (frame : Frame) (cs : List Char) :
    readFrom (.build depth) [frame] .value cs
      = (readValue (.build (depth + 1)) cs).bind fun found =>
        readFrom (.build depth) [frame] (.place found.1) found.2 :=
  readFrom_append depth [] [frame] .value cs

end PayloadModels.Json
