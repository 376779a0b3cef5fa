import PayloadModels.Proofs.Json.Skipping
import PayloadModels.Proofs.Records.MatrixOptions
import PayloadModels.Records.MatrixOptions.Reader

/-!
# Records that are read from text

The reader of a record decodes each field where it stands in the text, without a value in between.
It takes the same from the text as the decoder takes from the value that is written there
(`readField_eq_ok_iff`): nested objects and lists of them are read where the value is one, and a
member of no field is skipped, which ends where reading it ends. So the members of an object are
read as they are decoded one after another (`Draft.readMembersFrom_eq_ok_iff`), save that a field is
not written twice (`Draft.decodeMember`).
-/

namespace PayloadModels.MatrixOptions

open Json

variable {cs start after rest : List Char} {json : Json} {key : String} {members written : Members}
  {depth : Nat} {kind : FieldKind}

/-! ## Nested objects -/

/-- A list of objects is read object by object, and goes on or ends behind each. -/
theorem readObjectsFrom_eq (before : List Members) (cs : List Char) :
    readObjectsFrom before cs = (readMembers (.build 2) cs).bind fun found =>
      match skipGap found.2 with
      | ',' :: rest => (Mode.listComma (.build 2) (skipGap rest)).bind fun _ =>
        readObjectsFrom (found.1 :: before) rest
      | ']' :: rest => .ok ((found.1 :: before).reverse, rest)
      | [] => .error (.at .endInList [])
      | rest => .error (.at .expectedListEnd rest) := by
  rw [readObjectsFrom]
  split
  · next h => simp only [h, Except.bind]
  · next h =>
    simp only [h, Except.bind]
    split
    · next hcomma =>
      simp only [hcomma]
      split <;> simp_all
    all_goals simp_all

/-- Where a value stands that is no object, no list of objects is read. -/
theorem readObjectsFrom_ne_ok (h : Json.readValue (.build 2) cs = .ok (json, after))
    (hjson : ¬ ∃ members, json = .obj members) (before : List Members)
    (found : List Members × List Char) : readObjectsFrom before cs ≠ .ok found := by
  intro hfound
  rw [readObjectsFrom_eq] at hfound
  obtain ⟨first, hfirst, -⟩ := exists_of_bind_eq_ok hfound
  exact readMembers_ne_ok h hjson first hfirst

/-- A list that begins with a value that is no object is no list of objects. -/
theorem map_obj_ne_cons (hjson : ¬ ∃ members, json = .obj members) (list : List Members)
    (items : List Json) : list.map Json.obj ≠ json :: items := by
  intro hlist
  obtain ⟨members, _, -, hmembers, -⟩ := List.map_eq_cons_iff.1 hlist
  exact hjson ⟨members, hmembers.symm⟩

/-- A list of objects is read where all items of the list are objects. -/
theorem readObjectsFrom_eq_ok_iff {items : List Json} {before objects : List Members}
    {tail : List Char} (h : ReadsItems 2 cs items rest) :
    readObjectsFrom before cs = .ok (objects, tail) ↔
      ∃ list : List Members, list.map Json.obj = items ∧ before.reverse ++ list = objects ∧
        rest = tail := by
  induction h generalizing before with
  | @last _ _ _ item hitem hclose =>
    by_cases hjson : ∃ members, item = .obj members
    · obtain ⟨members, rfl⟩ := hjson
      rw [readObjectsFrom_eq, readMembers_eq_ok_iff.2 hitem, Except.bind, hclose]
      simp [List.map_eq_cons_iff]
    · exact iff_of_false (readObjectsFrom_ne_ok hitem hjson before _)
        fun ⟨list, hlist, _⟩ => map_obj_ne_cons hjson list _ hlist
  | @more _ _ _ _ item items hitem hcomma hitems ih =>
    by_cases hjson : ∃ members, item = .obj members
    · obtain ⟨members, rfl⟩ := hjson
      obtain ⟨found, hfound⟩ := hitems.exists_readValue
      rw [readObjectsFrom_eq, readMembers_eq_ok_iff.2 hitem, Except.bind, hcomma]
      simp only [listComma_eq_ok hfound (.build 2), Except.bind, ih, List.reverse_cons,
        List.append_assoc, List.singleton_append]
      simp [List.map_eq_cons_iff]
    · exact iff_of_false (readObjectsFrom_ne_ok hitem hjson before _)
        fun ⟨list, hlist, _⟩ => map_obj_ne_cons hjson list _ hlist

/-! ## Fields -/

/-- A field that takes scalars reads one as it decodes it. -/
theorem readScalarField_eq_ok_iff {value : kind.Value} {tail : List Char}
    (hopens : opensContainer cs = false) (h : readScalar (.build 1) cs = .ok (json, rest)) :
    readScalarField kind cs = .ok (value, tail) ↔
      kind.decodeField json = .ok value ∧ rest = tail := by
  rw [readScalarField, hopens, h]
  simp only [Bool.false_eq_true, if_false, bind, Except.bind]
  cases kind.decodeField json with
  | ok found => simp [pure, Except.pure]
  | error cause => exact ⟨nofun, nofun⟩

/-- A field that takes scalars does not read a container. -/
theorem readScalarField_ne_ok (hopens : opensContainer cs = true)
    (found : kind.Value × List Char) : readScalarField kind cs ≠ .ok found := by
  rw [readScalarField, if_pos hopens]
  exact nofun

/-- A field of objects takes the arrays of them. -/
theorem decodeField_arr_eq_ok_iff {items : List Json} {objects : List Members} :
    FieldKind.decodeField .objects (.arr items) = .ok objects ↔ objects.map Json.obj = items :=
  FieldKind.mapM_decodeObject_eq_ok_iff.trans eq_comm

/-- A list of nested objects is read where it is decoded. -/
theorem readObjects_eq_ok_iff {objects : List Members} {tail : List Char}
    (hopen : skipGap cs = '[' :: start) (h : Json.readValue (.build 1) cs = .ok (json, rest)) :
    readObjects start = .ok (objects, tail) ↔
      FieldKind.decodeField .objects json = .ok objects ∧ rest = tail := by
  obtain ⟨-, ⟨hclose, rfl⟩ | ⟨items, hitems, rfl⟩⟩ := (readValue_list_iff hopen).1 h
  · rw [readObjects, hclose, decodeField_arr_eq_ok_iff, List.map_eq_nil_iff]
    simp [eq_comm]
  · rw [readObjects, decodeField_arr_eq_ok_iff]
    split
    · next hclose => exact absurd hclose hitems.skipGap_ne_listEnd
    · next hclose => exact absurd hclose hitems.skipGap_ne_nil
    · rw [readObjectsFrom_eq_ok_iff hitems]
      simp

/-- A value that opens a list is read by the field for lists of objects alone. -/
theorem readField_list_eq_ok_iff {value : kind.Value} {tail : List Char}
    (hopen : skipGap cs = '[' :: start) (h : Json.readValue (.build 1) cs = .ok (json, rest)) :
    readField kind cs = .ok (value, tail) ↔ kind.decodeField json = .ok value ∧ rest = tail := by
  have hopens : opensContainer (skipGap cs) = true := by rw [hopen]; rfl
  have hjson : ∃ items, json = .arr items := by
    obtain ⟨-, ⟨-, rfl⟩ | ⟨items, -, rfl⟩⟩ := (readValue_list_iff hopen).1 h
    · exact ⟨[], rfl⟩
    · exact ⟨items, rfl⟩
  cases kind with
  | objects =>
    have hread : readField .objects cs = readObjects start := by
      simp only [readField, hopen]
      exact bind_pure _
    rw [hread]
    exact readObjects_eq_ok_iff hopen h
  | object =>
    obtain ⟨items, rfl⟩ := hjson
    simp only [readField, hopen]
    exact iff_of_false (readScalarField_ne_ok rfl _) nofun
  | flag | integer | text =>
    obtain ⟨items, rfl⟩ := hjson
    exact iff_of_false (readScalarField_ne_ok hopens _) nofun

/-- A value that opens an object is read by the field for objects alone, as it stands. -/
theorem readField_object_eq_ok_iff {value : kind.Value} {tail : List Char}
    (hopen : skipGap cs = '\x7b' :: start) (h : Json.readValue (.build 1) cs = .ok (json, rest)) :
    readField kind cs = .ok (value, tail) ↔ kind.decodeField json = .ok value ∧ rest = tail := by
  have hopens : opensContainer (skipGap cs) = true := by rw [hopen]; rfl
  obtain ⟨-, written, -, rfl⟩ := (readValue_object_iff hopen).1 h
  cases kind with
  | object =>
    have hmembers : readMembers (.build 1) ('\x7b' :: start)
        = .ok (Members.ofWritten written, rest) := by
      rw [readMembers_eq_ok_iff, ← hopen, readValue_skipGap]
      exact h
    simp only [readField, hopen, hmembers]
    constructor
    · intro h
      cases h
      exact ⟨rfl, rfl⟩
    · rintro ⟨hvalue, rfl⟩
      cases hvalue
      rfl
  | objects =>
    simp only [readField, hopen]
    exact iff_of_false (readScalarField_ne_ok rfl _) nofun
  | flag | integer | text =>
    exact iff_of_false (readScalarField_ne_ok hopens _) nofun

/-- A value that opens no container is read where it is decoded. -/
theorem readField_scalar_eq_ok_iff {value : kind.Value} {tail : List Char}
    (hlist : ∀ start, skipGap cs ≠ '[' :: start) (hobject : ∀ start, skipGap cs ≠ '\x7b' :: start)
    (h : Json.readValue (.build 1) cs = .ok (json, rest)) :
    readField kind cs = .ok (value, tail) ↔ kind.decodeField json = .ok value ∧ rest = tail := by
  rw [readValue_eq_readScalar hlist hobject] at h
  have hopens : opensContainer (skipGap cs) = false := by
    unfold opensContainer
    split
    · next hopen => exact absurd hopen (hlist _)
    · next hopen => exact absurd hopen (hobject _)
    · rfl
  have hfield : readField kind cs = readScalarField kind (skipGap cs) := by
    cases kind with
    | object | objects => simp only [readField]
    | flag | integer | text => rfl
  rw [hfield]
  exact readScalarField_eq_ok_iff hopens h

/-- Where the value of a field is known, the field takes from the text what it takes from the
value. -/
theorem readField_eq_ok_iff {value : kind.Value} {tail : List Char}
    (h : Json.readValue (.build 1) cs = .ok (json, rest)) :
    readField kind cs = .ok (value, tail) ↔ kind.decodeField json = .ok value ∧ rest = tail := by
  by_cases hlist : ∃ start, skipGap cs = '[' :: start
  · obtain ⟨start, hopen⟩ := hlist
    exact readField_list_eq_ok_iff hopen h
  · by_cases hobject : ∃ start, skipGap cs = '\x7b' :: start
    · obtain ⟨start, hopen⟩ := hobject
      exact readField_object_eq_ok_iff hopen h
    · push Not at hlist hobject
      exact readField_scalar_eq_ok_iff hlist hobject h

/-! ## Members -/

/-- The record after a member that is written. A field is not written twice. -/
def Draft.decodeMember (draft : Draft) (member : String × Json) : Except Cause Draft :=
  match Field.ofKey? member.1 with
  | none => .ok draft
  | some field =>
    if field ∈ draft.seen then .error (.duplicateField member.1)
    else (field.kind.decodeField member.2).map fun value =>
      ⟨draft.options.set field value, field :: draft.seen⟩

variable {draft next : Draft} {options : MatrixOptions} {tail : List Char}

/-- The value of a field is read as it is decoded, and the field counts as seen. -/
theorem Draft.readValue_eq_ok_iff {field : Field}
    (h : Json.readValue (.build 1) cs = .ok (json, rest)) :
    draft.readValue field cs = .ok (next, tail) ↔
      ∃ value, field.kind.decodeField json = .ok value ∧
        ⟨draft.options.set field value, field :: draft.seen⟩ = next ∧ rest = tail := by
  constructor
  · intro hread
    obtain ⟨⟨value, _⟩, hvalue, hnext⟩ := exists_of_bind_eq_ok hread
    cases hnext
    obtain ⟨hdecode, hrest⟩ := (readField_eq_ok_iff h).1 hvalue
    exact ⟨value, hdecode, rfl, hrest⟩
  · rintro ⟨value, hdecode, rfl, rfl⟩
    rw [Draft.readValue, (readField_eq_ok_iff h).2 ⟨hdecode, rfl⟩]
    rfl

/-- Where the value of a member is known, the record takes from the text what it takes from the
value, or passes over both. -/
theorem Draft.readMember_eq_ok_iff (hcolon : readColon cs = .ok start)
    (hvalue : Json.readValue (.build 1) start = .ok (json, rest)) :
    draft.readMember key cs = .ok (next, tail) ↔
      draft.decodeMember (key, json) = .ok next ∧ rest = tail := by
  unfold Draft.readMember Draft.decodeMember
  dsimp only
  cases Field.ofKey? key with
  | none =>
    obtain ⟨skipped, hskipped⟩ := exists_readValue_skip hvalue
    simp only [hcolon, hskipped, bind, Except.bind, pure, Except.pure]
    simp
  | some field =>
    dsimp only
    by_cases hseen : field ∈ draft.seen
    · rw [if_pos hseen, if_pos hseen]
      exact ⟨nofun, nofun⟩
    · rw [if_neg hseen, if_neg hseen, hcolon, map_eq_ok_iff]
      refine (Draft.readValue_eq_ok_iff hvalue).trans ?_
      simp only [← and_assoc, exists_and_right]

/-- Reads a member from its key on. -/
def Draft.readKeyed (draft : Draft) (cs : List Char) : Except Stop (Draft × List Char) :=
  (readKey (.build 1) cs).bind fun found => draft.readMember found.1 found.2

/-- A member is read where it is decoded, and otherwise refused. -/
theorem Draft.readKeyed_cases (draft : Draft)
    (hkey : readKeyColon (.build 1) cs = .ok (key, start))
    (hvalue : Json.readValue (.build 1) start = .ok (json, rest)) :
    (∃ next, draft.decodeMember (key, json) = .ok next ∧ draft.readKeyed cs = .ok (next, rest)) ∨
      ∃ cause stop, draft.decodeMember (key, json) = .error cause ∧
        draft.readKeyed cs = .error stop := by
  obtain ⟨⟨_, mid⟩, hkey, hcolon⟩ := exists_of_bind_eq_ok hkey
  obtain ⟨_, hcolon, heq⟩ := exists_of_bind_eq_ok hcolon
  cases heq
  have hread (next : Draft) (tail : List Char) : draft.readMember key mid = .ok (next, tail) ↔
      draft.decodeMember (key, json) = .ok next ∧ rest = tail :=
    Draft.readMember_eq_ok_iff hcolon hvalue
  rw [Draft.readKeyed, hkey, Except.bind]
  cases hmember : draft.readMember key mid with
  | ok found =>
    obtain ⟨hdecode, hrest⟩ := (hread _ _).1 hmember
    exact .inl ⟨found.1, hdecode, congrArg (fun rest => Except.ok (found.1, rest)) hrest.symm⟩
  | error stop =>
    cases hdecode : draft.decodeMember (key, json) with
    | ok next =>
      rw [(hread _ _).2 ⟨hdecode, rfl⟩] at hmember
      cases hmember
    | error cause => exact .inr ⟨cause, stop, rfl, rfl⟩

/-- Members are read one by one, and the object goes on or ends behind each. -/
theorem Draft.readMembersFrom_eq (draft : Draft) (cs : List Char) :
    draft.readMembersFrom cs = (draft.readKeyed cs).bind fun read =>
      match skipGap read.2 with
      | ',' :: rest => (Mode.objectComma (.build 1) (skipGap rest)).bind fun _ =>
        read.1.readMembersFrom (skipGap rest)
      | '\x7d' :: rest => .ok (read.1.options, rest)
      | [] => .error (.at .endInObject [])
      | rest => .error (.at .expectedObjectEnd rest) := by
  rw [Draft.readMembersFrom, Draft.readKeyed]
  split
  · next hkey => simp only [hkey, Except.bind]
  · next hkey =>
    simp only [hkey, Except.bind]
    split
    · next hmember => simp only [hmember]
    · next hmember =>
      simp only [hmember]
      split
      · next hcomma =>
        simp only [hcomma]
        split <;> simp_all
      all_goals simp_all

/-- The members of a record are read as they are written, where each can be decoded. -/
theorem Draft.readMembersFrom_eq_ok_iff (h : ReadsMembers 1 cs written rest) :
    draft.readMembersFrom cs = .ok (options, tail) ↔
      (∃ last, written.foldlM Draft.decodeMember draft = .ok last ∧ last.options = options) ∧
        rest = tail := by
  induction h generalizing draft with
  | last hkey hvalue hclose =>
    rw [Draft.readMembersFrom_eq, List.foldlM_cons]
    rcases draft.readKeyed_cases hkey hvalue with ⟨next, hdecode, hread⟩ | ⟨_, _, hdecode, hread⟩
    · rw [hread, hdecode, Except.bind, hclose]
      simp [bind, Except.bind, pure, Except.pure]
    · rw [hread, hdecode]
      exact iff_of_false nofun fun ⟨⟨_, h, _⟩, _⟩ => nomatch h
  | more hkey hvalue hcomma hmembers ih =>
    rw [Draft.readMembersFrom_eq, List.foldlM_cons]
    rcases draft.readKeyed_cases hkey hvalue with ⟨next, hdecode, hread⟩ | ⟨_, _, hdecode, hread⟩
    · obtain ⟨found, hfound⟩ := hmembers.exists_readKeyColon
      rw [hread, hdecode, Except.bind, hcomma]
      simp only [objectComma_eq_ok hfound (.build 1), Except.bind]
      exact ih
    · rw [hread, hdecode]
      exact iff_of_false nofun fun ⟨⟨_, h, _⟩, _⟩ => nomatch h

end PayloadModels.MatrixOptions
