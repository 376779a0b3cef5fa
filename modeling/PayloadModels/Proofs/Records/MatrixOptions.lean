import Mathlib.Data.Set.List
import PayloadModels.Proofs.Fallible
import PayloadModels.Proofs.Json.Ways
import PayloadModels.Records.MatrixOptions

/-!
# What a record accepts

An object is decoded to purchase options exactly when each of its known keys has a value that its
field takes, or `null` (`MatrixOptions.decode_spec`). Members are decoded one after another, and
since their keys are different, each decides over its own field and no other
(`MatrixOptions.foldlM_decodeMember_eq_ok_iff`).
-/

namespace PayloadModels

namespace FieldKind

variable {kind : FieldKind} {json : Json}

/-! ## Values of a kind -/

/-- The kind takes the value. -/
def Takes (kind : FieldKind) (json : Json) : Prop :=
  match kind with
  | flag => ∃ b, json = .bool b
  | integer => ∃ n, isInt64 n ∧ json = .num (.int n)
  | text => ∃ s, json = .str s
  | object => ∃ members, json = .obj members
  | objects => ∃ items, json = .arr items ∧ ∀ item ∈ items, ∃ members, item = .obj members

/-- Only an object is taken as one, with its members. -/
theorem decodeObject_eq_ok_iff {members : Json.Members} :
    decodeObject json = .ok members ↔ json = .obj members := by
  cases json <;> simp [decodeObject, mismatch]

/-- Values are taken as objects when all of them are. -/
theorem mapM_decodeObject_eq_ok_iff {items : List Json} {list : List Json.Members} :
    items.mapM decodeObject = .ok list ↔ items = list.map .obj := by
  simp only [mapM_eq_ok_iff, decodeObject_eq_ok_iff]
  rw [← List.forall₂_eq_eq_eq, List.forall₂_map_right_iff]

/-- An integer field takes the integers of 64 bits. -/
theorem decode_int (n : Int) : integer.decode (.num (.int n))
    = if isInt64 n then .ok (Int64.ofInt n) else mismatch (.num (.int n)) .int64 := rfl

/-- An integer is decoded when it is in the range. -/
theorem decode_integer_eq_ok_iff {value : Int64} :
    integer.decode json = .ok value ↔ json = .num (.int value.toInt) := by
  constructor
  · intro h
    cases json with
    | num n =>
      cases n with
      | int n =>
        rw [decode_int] at h
        split at h
        · next hrange =>
          cases h
          rw [toInt_ofInt hrange]
        · cases h
      | float => cases h
    | _ => cases h
  · rintro rfl
    rw [decode_int, if_pos (isInt64_toInt value), Int64.ofInt_toInt]
    rfl

/-- A value is decoded from what it is written as. -/
theorem decode_eq_ok_iff {value : kind.Value} :
    kind.decode json = .ok value ↔ kind.toJson? value = some json := by
  cases kind with
  | flag =>
    constructor
    · intro h
      cases json <;> cases h
      rfl
    · intro h
      cases h
      rfl
  | integer =>
    exact decode_integer_eq_ok_iff.trans
      ⟨fun h => congrArg some h.symm, fun h => (Option.some.inj h).symm⟩
  | text | object =>
    constructor
    · intro h
      cases json <;> cases h
      rfl
    · intro h
      cases value <;> cases h
      rfl
  | objects =>
    constructor
    · intro h
      cases json with
      | arr items => exact congrArg some (congrArg Json.arr (mapM_decodeObject_eq_ok_iff.1 h).symm)
      | _ => cases h
    · intro h
      cases h
      exact mapM_decodeObject_eq_ok_iff.2 rfl

/-- A value is decoded when the kind takes it. -/
theorem exists_decode_eq_ok_iff : (∃ value, kind.decode json = .ok value) ↔ kind.Takes json := by
  simp only [decode_eq_ok_iff]
  cases kind with
  | flag =>
    constructor
    · rintro ⟨b, h⟩
      cases h
      exact ⟨b, rfl⟩
    · rintro ⟨b, rfl⟩
      exact ⟨b, rfl⟩
  | integer =>
    constructor
    · rintro ⟨n, h⟩
      cases h
      exact ⟨_, isInt64_toInt n, rfl⟩
    · rintro ⟨n, hrange, rfl⟩
      refine ⟨Int64.ofInt n, ?_⟩
      show some (Json.num (.int (Int64.ofInt n).toInt)) = _
      rw [toInt_ofInt hrange]
  | text | object =>
    constructor
    · rintro ⟨value, h⟩
      obtain ⟨content, -, rfl⟩ := Option.map_eq_some_iff.1 h
      exact ⟨content, rfl⟩
    · rintro ⟨content, rfl⟩
      exact ⟨some content, rfl⟩
  | objects =>
    constructor
    · rintro ⟨list, h⟩
      cases h
      exact ⟨_, rfl, List.forall_mem_map.2 fun members _ => ⟨members, rfl⟩⟩
    · rintro ⟨items, rfl, hitems⟩
      have hlist : items ∈ Set.range (List.map Json.obj) := by
        rw [Set.range_list_map]
        exact fun item hitem => (hitems item hitem).imp fun _ => Eq.symm
      obtain ⟨list, rfl⟩ := hlist
      exact ⟨list, rfl⟩

/-- A field takes `null` beside what its kind takes. -/
theorem exists_decodeField_eq_ok_iff :
    (∃ value, kind.decodeField json = .ok value) ↔ json = .null ∨ kind.Takes json := by
  cases json with
  | null => exact iff_of_true ⟨_, rfl⟩ (.inl rfl)
  | _ => exact exists_decode_eq_ok_iff.trans (by simp)

/-- What is not `null` is what its value is written as. -/
theorem toJson?_of_decodeField {value : kind.Value} (h : kind.decodeField json = .ok value)
    (hnull : json ≠ .null) : kind.toJson? value = some json := by
  cases json with
  | null => exact absurd rfl hnull
  | _ => exact decode_eq_ok_iff.1 h

end FieldKind

namespace MatrixOptions

variable {members front back : Json.Members} {start options : MatrixOptions} {field other : Field}
  {key : String} {json : Json}

/-! ## Fields -/

/-- Records with equal fields are equal. -/
theorem eq_of_value (h : ∀ field, start.value field = options.value field) : start = options := by
  cases start
  cases options
  exact congrArg MatrixOptions.mk (funext h)

@[simp] theorem value_set_self (options : MatrixOptions) (field : Field)
    (value : field.kind.Value) : (options.set field value).value field = value := by
  simp [set]

/-- Setting a field leaves the others as they are. -/
theorem value_set_of_ne (h : other ≠ field) (options : MatrixOptions) (value : field.kind.Value) :
    (options.set field value).value other = options.value other := by
  simp [set, h]

@[simp] theorem set_value (options : MatrixOptions) (field : Field) :
    options.set field (options.value field) = options := by
  refine eq_of_value fun other => ?_
  by_cases h : other = field
  · subst h
    exact value_set_self ..
  · exact value_set_of_ne h ..

/-- A field that is found for a key has the key. -/
theorem key_eq_of_ofKey? (h : Field.ofKey? key = some field) : field.key = key := by
  simpa using List.find?_some h

/-- No two fields have one key. -/
theorem key_injective (h : field.key = other.key) : field = other := by
  have hfield := Field.ofKey?_key field
  rw [h, Field.ofKey?_key other] at hfield
  exact (Option.some.inj hfield).symm

/-- A key is that of a field or of none. -/
theorem forall_key_ne_or_exists_key_eq (key : String) :
    (∀ field : Field, field.key ≠ key) ∨ ∃ field : Field, field.key = key := by
  rw [or_iff_not_imp_right, not_exists]
  exact id

/-- A key that no field has is passed over. -/
theorem decodeMember_of_unknown (h : ∀ field : Field, field.key ≠ key) (json : Json) :
    decodeMember options (key, json) = .ok options := by
  have hnone : Field.ofKey? key = none :=
    Option.eq_none_iff_forall_ne_some.2 fun field hfield => h field (key_eq_of_ofKey? hfield)
  rw [decodeMember, hnone]

/-- The key of a field decides over its value. -/
theorem decodeMember_key (field : Field) (json : Json) :
    decodeMember options (field.key, json)
      = (field.kind.decodeField json).map (options.set field) := by
  rw [decodeMember, Field.ofKey?_key]

/-! ## Decoding members -/

/-- Each field holds what is decoded from the value of its key, or what it held at the start when
its key is absent. -/
structure Decodes (start : MatrixOptions) (members : Json.Members) (options : MatrixOptions) :
    Prop where
  absent : ∀ field : Field, members.get? field.key = none →
    options.value field = start.value field
  present : ∀ (field : Field) (json : Json), members.get? field.key = some json →
    field.kind.decodeField json = .ok (options.value field)

/-- Without members, a record stays as it was at the start. -/
theorem decodes_nil_iff : Decodes start [] options ↔ options = start := by
  constructor
  · exact fun h => eq_of_value fun field => h.absent field rfl
  · rintro rfl
    exact ⟨fun _ _ => rfl, fun _ _ h => (by cases h)⟩

/-- A member whose key is that of no field changes nothing. -/
theorem decodes_cons_of_unknown (h : ∀ field : Field, field.key ≠ key) :
    Decodes start ((key, json) :: members) options ↔ Decodes start members options := by
  have hget : ∀ field : Field,
      Json.Members.get? field.key ((key, json) :: members) = members.get? field.key := by
    intro field
    rw [Json.Members.get?_cons, if_neg (h field)]
  constructor
  all_goals
    rintro ⟨habsent, hpresent⟩
    exact ⟨fun field hfield => habsent field (hget field ▸ hfield),
      fun field json hfield => hpresent field json (hget field ▸ hfield)⟩

/-- A member whose key is not repeated sets its field, and the others go on from there. -/
theorem decodes_cons_of_key {value : field.kind.Value} (hnew : members.get? field.key = none)
    (hvalue : field.kind.decodeField json = .ok value) :
    Decodes start ((field.key, json) :: members) options
      ↔ Decodes (start.set field value) members options := by
  have hself : Json.Members.get? field.key ((field.key, json) :: members) = some json := by
    rw [Json.Members.get?_cons, if_pos rfl]
  have hget : ∀ other : Field, other ≠ field →
      Json.Members.get? other.key ((field.key, json) :: members) = members.get? other.key := by
    intro other hother
    rw [Json.Members.get?_cons, if_neg fun hkey => hother (key_injective hkey)]
  constructor
  · rintro ⟨habsent, hpresent⟩
    refine ⟨fun other hother => ?_, fun other found hother => ?_⟩
    · by_cases h : other = field
      · subst h
        have hdecoded := hpresent other json hself
        rw [hvalue] at hdecoded
        rw [value_set_self, Except.ok.inj hdecoded]
      · rw [value_set_of_ne h]
        exact habsent other ((hget other h).trans hother)
    · have h : other ≠ field := by
        rintro rfl
        rw [hnew] at hother
        cases hother
      exact hpresent other found ((hget other h).trans hother)
  · rintro ⟨habsent, hpresent⟩
    refine ⟨fun other hother => ?_, fun other found hother => ?_⟩
    · have h : other ≠ field := by
        rintro rfl
        rw [hself] at hother
        cases hother
      rw [← value_set_of_ne h start value]
      exact habsent other ((hget other h).symm.trans hother)
    · by_cases h : other = field
      · subst h
        cases hself.symm.trans hother
        rw [habsent other hnew, value_set_self, hvalue]
      · exact hpresent other found ((hget other h).symm.trans hother)

/-- Members of different keys are decoded when each value is decoded that belongs to a field. -/
theorem foldlM_decodeMember_eq_ok_iff (hkeys : (members.map (·.1)).Nodup) :
    members.foldlM decodeMember start = .ok options ↔ Decodes start members options := by
  induction members generalizing start with
  | nil =>
    rw [decodes_nil_iff, List.foldlM_nil]
    exact ⟨fun h => (Except.ok.inj h).symm, fun h => congrArg Except.ok h.symm⟩
  | cons member members ih =>
    obtain ⟨key, json⟩ := member
    obtain ⟨hnew, hrest⟩ := List.nodup_cons.1 hkeys
    rw [List.foldlM_cons]
    rcases forall_key_ne_or_exists_key_eq key with hunknown | ⟨field, rfl⟩
    · rw [decodeMember_of_unknown hunknown, decodes_cons_of_unknown hunknown, ← ih hrest]
      rfl
    · have habsent : Json.Members.get? field.key members = none :=
        Json.Members.get?_eq_none_iff.2 hnew
      rw [decodeMember_key]
      cases hvalue : field.kind.decodeField json with
      | ok value =>
        rw [decodes_cons_of_key habsent hvalue, ← ih hrest]
        rfl
      | error cause =>
        refine iff_of_false (fun h => (by cases h)) fun h => ?_
        have hself : Json.Members.get? field.key ((field.key, json) :: members) = some json := by
          rw [Json.Members.get?_cons, if_pos rfl]
        rw [h.present field json hself] at hvalue
        cases hvalue

/-- A record is what the members decode to from the defaults. -/
theorem ofMembers_eq_ok_iff (hkeys : (members.map (·.1)).Nodup) :
    ofMembers members = .ok options ↔ Decodes default members options :=
  foldlM_decodeMember_eq_ok_iff hkeys

/-- There is a record when every known key has `null` or a value that its field takes. -/
theorem exists_ofMembers_eq_ok_iff (hkeys : (members.map (·.1)).Nodup) :
    (∃ options, ofMembers members = .ok options) ↔ ∀ (field : Field) (json : Json),
      members.get? field.key = some json → json = .null ∨ field.kind.Takes json := by
  simp only [ofMembers_eq_ok_iff hkeys, ← FieldKind.exists_decodeField_eq_ok_iff]
  constructor
  · rintro ⟨options, h⟩ field json hjson
    exact ⟨_, h.present field json hjson⟩
  · intro h
    have hvalue : ∀ field : Field, ∃ value : field.kind.Value,
        (members.get? field.key = none → value = field.kind.default) ∧
          ∀ json, members.get? field.key = some json → field.kind.decodeField json = .ok value := by
      intro field
      cases hjson : members.get? field.key with
      | none => exact ⟨field.kind.default, fun _ => rfl, fun _ h => (by cases h)⟩
      | some json =>
        obtain ⟨value, hvalue⟩ := h field json hjson
        refine ⟨value, fun h => (by cases h), fun found hfound => ?_⟩
        cases hfound
        exact hvalue
    choose value habsent hpresent using hvalue
    exact ⟨⟨value⟩, habsent, hpresent⟩

/-- Decoding fails at a value that its field does not take. -/
theorem exists_of_foldlM_eq_error {cause : Json.Cause}
    (h : members.foldlM decodeMember start = .error cause) :
    ∃ (field : Field) (json : Json), (field.key, json) ∈ members ∧
      field.kind.decodeField json = .error cause := by
  induction members generalizing start with
  | nil => cases h
  | cons member members ih =>
    obtain ⟨key, json⟩ := member
    rw [List.foldlM_cons] at h
    have hrest : ∀ next : MatrixOptions, members.foldlM decodeMember next = .error cause →
        ∃ (field : Field) (found : Json), (field.key, found) ∈ (key, json) :: members ∧
          field.kind.decodeField found = .error cause := by
      intro next hnext
      obtain ⟨field, found, hmem, hfound⟩ := ih hnext
      exact ⟨field, found, List.mem_cons_of_mem _ hmem, hfound⟩
    rcases forall_key_ne_or_exists_key_eq key with hunknown | ⟨field, rfl⟩
    · rw [decodeMember_of_unknown hunknown] at h
      exact hrest start h
    · rw [decodeMember_key] at h
      cases hvalue : field.kind.decodeField json with
      | ok value =>
        rw [hvalue] at h
        exact hrest _ h
      | error first =>
        rw [hvalue] at h
        cases h
        exact ⟨field, json, List.mem_cons_self, hvalue⟩

/-! ## Members that change nothing -/

/-- A member changes nothing when it leaves every record as it is that the members before it
give. -/
theorem ofMembers_insert {member : String × Json}
    (h : ∀ options, ofMembers front = .ok options → decodeMember options member = .ok options) :
    ofMembers (front ++ member :: back) = ofMembers (front ++ back) := by
  rw [ofMembers, ofMembers, List.foldlM_append, List.foldlM_append]
  cases hfront : front.foldlM decodeMember default with
  | error cause => rfl
  | ok options =>
    show (member :: back).foldlM decodeMember options = back.foldlM decodeMember options
    rw [List.foldlM_cons, h options hfront]
    rfl

/-- A key that no field has changes nothing, wherever it stands. -/
theorem ofMembers_insert_unknown (h : ∀ field : Field, field.key ≠ key) (json : Json) :
    ofMembers (front ++ (key, json) :: back) = ofMembers (front ++ back) :=
  ofMembers_insert fun _ _ => decodeMember_of_unknown h json

/-- An absent key changes nothing when it gets `null`, wherever it stands. -/
theorem ofMembers_insert_null (hkeys : (front.map (·.1)).Nodup)
    (h : field.key ∉ front.map (·.1)) :
    ofMembers (front ++ (field.key, .null) :: back) = ofMembers (front ++ back) := by
  refine ofMembers_insert fun options hoptions => ?_
  have hdefault : options.value field = field.kind.default :=
    ((ofMembers_eq_ok_iff hkeys).1 hoptions).absent field (Json.Members.get?_eq_none_iff.2 h)
  have hnull : field.kind.decodeField .null = .ok (options.value field) := by
    rw [hdefault]
    rfl
  rw [decodeMember_key, hnull]
  exact congrArg Except.ok (set_value options field)

/-! ## The record of an object -/

/-- An object is decoded when each of its known keys has `null` or a value that the field takes.
Then each field holds that value, or its default when the key is absent or has `null`. Keys of no
field do not matter, and neither does `null` in place of an absent key. What cannot be decoded is
told with the name of the record, and why its field does not take it. -/
theorem decode_spec (members : Json.Members) (hkeys : (members.map (·.1)).Nodup) :
    ((∃ options, decode members = .ok options) ↔ ∀ (field : Field) (json : Json),
        members.get? field.key = some json → json = .null ∨ field.kind.Takes json) ∧
      (∀ options, decode members = .ok options → ∀ field : Field,
        (∀ json, members.get? field.key = some json → json ≠ .null →
          field.kind.toJson? (options.value field) = some json) ∧
        (members.get? field.key = none ∨ members.get? field.key = some .null →
          options.value field = field.kind.default)) ∧
      (∀ front back, members = front ++ back →
        (∀ key json, (∀ field : Field, field.key ≠ key) →
          decode (front ++ (key, json) :: back) = decode members) ∧
        ∀ field : Field, field.key ∉ members.map (·.1) →
          decode (front ++ (field.key, .null) :: back) = decode members) ∧
      ∀ error, decode members = .error error → ∃ (field : Field) (json : Json) (cause : Json.Cause),
        members.get? field.key = some json ∧ field.kind.decodeField json = .error cause ∧
          error = .recordUndecodable "MatrixOptions" cause.describe := by
  have hdecode : ∀ options, decode members = .ok options ↔ ofMembers members = .ok options :=
    fun options => mapError_eq_ok_iff
  refine ⟨?_, fun options hoptions field => ?_, ?_, fun error herror => ?_⟩
  · simp only [hdecode]
    exact exists_ofMembers_eq_ok_iff hkeys
  · have hdecodes := (ofMembers_eq_ok_iff hkeys).1 ((hdecode options).1 hoptions)
    refine ⟨fun json hjson hnull => ?_, fun hmissing => ?_⟩
    · exact FieldKind.toJson?_of_decodeField (hdecodes.present field json hjson) hnull
    · rcases hmissing with hmissing | hmissing
      · exact hdecodes.absent field hmissing
      · exact (Except.ok.inj (hdecodes.present field .null hmissing)).symm
  · rintro front back rfl
    rw [List.map_append, List.nodup_append] at hkeys
    refine ⟨fun key json hunknown => ?_, fun field habsent => ?_⟩
    · rw [decode, ofMembers_insert_unknown hunknown, decode]
    · rw [List.map_append, List.mem_append, not_or] at habsent
      rw [decode, ofMembers_insert_null hkeys.1 habsent.1, decode]
  · obtain ⟨cause, hcause, rfl⟩ := mapError_eq_error_iff.1 herror
    obtain ⟨field, json, hmem, hrefused⟩ := exists_of_foldlM_eq_error hcause
    exact ⟨field, json, cause, (Json.Members.get?_eq_some_iff hkeys).2 hmem, hrefused, rfl⟩

/-- A number, a list of objects, a `null` and a member of no field. -/
theorem decode_spec_product :
    let members : Json.Members := [("productId", .num (.int 486154)),
      ("images", .arr [.obj [("url", .str "front.png")]]), ("price", .null), ("color", .str "red")]
    (members.map (·.1)).Nodup ∧ ∃ options, decode members = .ok options ∧
      FieldKind.integer.toJson? (options.value .productId) = some (.num (.int 486154)) ∧
      options.value .price = FieldKind.object.default ∧
      options.value .thumbnailUrl = FieldKind.text.default := by
  intro members
  have hkeys : (members.map (·.1)).Nodup := by decide
  have htaken : ∀ (field : Field) (json : Json),
      members.get? field.key = some json → json = .null ∨ field.kind.Takes json := by
    intro field json hjson
    have hmem : (field.key, json) ∈ members := (Json.Members.get?_eq_some_iff hkeys).1 hjson
    simp only [members, List.mem_cons, Prod.mk.injEq, List.not_mem_nil, or_false] at hmem
    rcases hmem with ⟨hkey, rfl⟩ | ⟨hkey, rfl⟩ | ⟨-, rfl⟩ | ⟨hkey, -⟩
    · cases key_injective (hkey.trans (rfl : _ = Field.productId.key))
      exact .inr ⟨_, by decide, rfl⟩
    · cases key_injective (hkey.trans (rfl : _ = Field.images.key))
      exact .inr ⟨_, rfl, List.forall_mem_singleton.2 ⟨_, rfl⟩⟩
    · exact .inl rfl
    · exact absurd hkey (by cases field <;> decide)
  obtain ⟨haccepts, hvalues, -⟩ := decode_spec members hkeys
  obtain ⟨options, hoptions⟩ := haccepts.2 htaken
  have hvalue := hvalues options hoptions
  exact ⟨hkeys, options, hoptions, (hvalue .productId).1 _ rfl (by simp),
    (hvalue .price).2 (.inr rfl), (hvalue .thumbnailUrl).2 (.inl rfl)⟩

end MatrixOptions

end PayloadModels
