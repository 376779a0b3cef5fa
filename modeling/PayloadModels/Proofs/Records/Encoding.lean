import PayloadModels.Proofs.Records.MatrixOptions

/-!
# What a record is written as

Purchase options are written as an object that has the keys of their fields in order, without the
texts and nested objects that are absent (`MatrixOptions.get?_toMembers`). Each field takes what it
is written as, and a field that is not written has the value of an absent one, so every record is
decoded from what it is written as (`MatrixOptions.decode_toMembers`).
-/

namespace PayloadModels

namespace FieldKind

variable {kind : FieldKind} {json : Json}

/-- What a field of the kind is written as when the object that was decoded lacks it. -/
def absentJson? : FieldKind → Option Json
  | flag => some (.bool false)
  | integer => some (.num (.int 0))
  | objects => some (.arr [])
  | text | object => none

/-- The default of a kind is written as an absent field is. -/
theorem toJson?_default (kind : FieldKind) : kind.toJson? kind.default = kind.absentJson? := by
  cases kind <;> rfl

/-- Only the value of an absent field is not written. -/
theorem eq_default_of_toJson? {value : kind.Value} (h : kind.toJson? value = none) :
    value = kind.default := by
  cases kind with
  | flag | integer | objects => cases h
  | text | object => exact Option.map_eq_none_iff.1 h

/-- No field is written as `null`. -/
theorem toJson?_ne_null (value : kind.Value) : kind.toJson? value ≠ some .null := by
  cases kind with
  | flag | integer | objects => nofun
  | text | object => cases value <;> nofun

/-- A field takes what its value is written as. -/
theorem decodeField_of_toJson? {value : kind.Value} (h : kind.toJson? value = some json) :
    kind.decodeField json = .ok value := by
  have hdecoded : kind.decode json = .ok value := decode_eq_ok_iff.2 h
  cases json with
  | null => exact absurd h (toJson?_ne_null value)
  | _ => exact hdecoded

end FieldKind

namespace MatrixOptions

variable {members : Json.Members} {options : MatrixOptions}

/-! ## The object of a record -/

/-- The keys that are written are those of the fields that are written, in the order of the fields.
-/
theorem keys_toMembers (options : MatrixOptions) :
    options.toMembers.map (·.1) = (Field.all.filter fun field =>
      (field.kind.toJson? (options.value field)).isSome).map Field.key := by
  rw [toMembers, List.map_filterMap]
  induction Field.all with
  | nil => rfl
  | cons field fields ih =>
    rw [List.filterMap_cons, List.filter_cons]
    cases field.kind.toJson? (options.value field) with
    | none => exact ih
    | some json => exact congrArg (field.key :: ·) ih

/-- The keys are those of fields, in their order. -/
theorem keys_toMembers_sublist (options : MatrixOptions) :
    (options.toMembers.map (·.1)).Sublist (Field.all.map Field.key) := by
  rw [keys_toMembers]
  exact List.filter_sublist.map Field.key

/-- No key is written twice. -/
theorem nodup_keys_toMembers (options : MatrixOptions) :
    (options.toMembers.map (·.1)).Nodup := by
  have hall : (Field.all.map Field.key).Nodup := by decide
  exact hall.sublist (keys_toMembers_sublist options)

/-- The key of a field has what the value of the field is written as. -/
theorem get?_toMembers (options : MatrixOptions) (field : Field) :
    options.toMembers.get? field.key = field.kind.toJson? (options.value field) := by
  refine Option.ext fun json => ?_
  rw [Json.Members.get?_eq_some_iff (nodup_keys_toMembers options), toMembers, List.mem_filterMap]
  constructor
  · rintro ⟨other, -, hother⟩
    obtain ⟨found, hfound, heq⟩ := Option.map_eq_some_iff.1 hother
    obtain ⟨hkey, rfl⟩ := Prod.mk.inj heq
    obtain rfl := key_injective hkey
    exact hfound
  · intro hjson
    exact ⟨field, field.mem_all, Option.map_eq_some_iff.2 ⟨json, hjson, rfl⟩⟩

/-- Every record is decoded from what it is written as. -/
theorem decode_toMembers (options : MatrixOptions) : decode options.toMembers = .ok options := by
  have hdecodes : Decodes default options.toMembers options := by
    refine ⟨fun field habsent => ?_, fun field json hpresent => ?_⟩
    · rw [get?_toMembers] at habsent
      exact FieldKind.eq_default_of_toJson? habsent
    · rw [get?_toMembers] at hpresent
      exact FieldKind.decodeField_of_toJson? hpresent
  exact mapError_eq_ok_iff.2 ((ofMembers_eq_ok_iff (nodup_keys_toMembers options)).2 hdecodes)

/-- The key of a field has again what the object had that was decoded. -/
theorem get?_toMembers_of_ofMembers (hkeys : (members.map (·.1)).Nodup)
    (h : ofMembers members = .ok options) (field : Field) :
    (∀ json, members.get? field.key = some json → json ≠ .null →
        options.toMembers.get? field.key = some json) ∧
      (members.get? field.key = none ∨ members.get? field.key = some .null →
        options.toMembers.get? field.key = field.kind.absentJson?) := by
  have hdecodes := (ofMembers_eq_ok_iff hkeys).1 h
  rw [get?_toMembers]
  refine ⟨fun json hjson hnull => ?_, fun hmissing => ?_⟩
  · exact FieldKind.toJson?_of_decodeField (hdecodes.present field json hjson) hnull
  · have hdefault : options.value field = field.kind.default := by
      rcases hmissing with hmissing | hmissing
      · exact hdecodes.absent field hmissing
      · exact (Except.ok.inj (hdecodes.present field .null hmissing)).symm
    rw [hdefault, FieldKind.toJson?_default]

/-! ## There and back -/

/-- What a decoded record is written as is an object that the record is decoded from again, and
the record that is decoded then is written as the same object. The keys are those of fields, in
their order; a field that the first object had keeps its value there, with all that is inside it,
and an absent text or nested object is left out. -/
theorem toJson_of_decode (members : Json.Members) (hkeys : (members.map (·.1)).Nodup)
    (options : MatrixOptions) (h : decode members = .ok options) :
    ∃ written : Json.Members, options.toJson = .obj written ∧
      (∃ again, decode written = .ok again ∧ again = options ∧ again.toJson = .obj written) ∧
      (written.map (·.1)).Sublist (Field.all.map Field.key) ∧
      ∀ field : Field,
        (∀ json, members.get? field.key = some json → json ≠ .null →
          written.get? field.key = some json) ∧
        (members.get? field.key = none ∨ members.get? field.key = some .null →
          written.get? field.key = field.kind.absentJson?) := by
  refine ⟨options.toMembers, rfl, ⟨options, decode_toMembers options, rfl, rfl⟩,
    keys_toMembers_sublist options, fun field => ?_⟩
  exact get?_toMembers_of_ofMembers hkeys (mapError_eq_ok_iff.1 h) field

/-- A nested object with a key of its own, a list, a `null`, and a member of no field. -/
theorem toJson_of_decode_product :
    let members : Json.Members := [("price", .obj [("amount", .num (.int 20)), ("tax", .null)]),
      ("color", .str "red"), ("tabs", .null), ("images", .arr [.obj [("url", .str "front.png")]])]
    let options := ((default.set .price (some [("amount", .num (.int 20)), ("tax", .null)])).set
      .tabs []).set .images [[("url", .str "front.png")]]
    (members.map (·.1)).Nodup ∧ decode members = .ok options ∧
      ∃ written : Json.Members, options.toJson = .obj written ∧ decode written = .ok options ∧
        written.get? "price" = some (.obj [("amount", .num (.int 20)), ("tax", .null)]) ∧
        written.get? "tabs" = some (.arr []) ∧ written.get? "thumbnailUrl" = none := by
  intro members options
  have hkeys : (members.map (·.1)).Nodup := by decide
  have hdecode : decode members = .ok options := rfl
  obtain ⟨written, hwritten, ⟨again, hagain, rfl, -⟩, -, hfields⟩ :=
    toJson_of_decode members hkeys options hdecode
  refine ⟨hkeys, hdecode, written, hwritten, hagain, ?_, ?_, ?_⟩
  · exact (hfields .price).1 _ rfl (by simp)
  · exact (hfields .tabs).2 (.inr rfl)
  · exact (hfields .thumbnailUrl).2 (.inl rfl)

end MatrixOptions

end PayloadModels
