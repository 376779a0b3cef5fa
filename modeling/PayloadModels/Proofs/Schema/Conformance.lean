import PayloadModels.Proofs.Schema.Occurrences

/-!
# Samples fit what is inferred from them

`HasType` says what it is for a value to have a type, without reference to inference, and
`Property.Fits` what a model's property promises of an object: a value that is not `null` where the
property is not optional, and the property's type wherever there is a value. A value has every type
above one that it has (`HasType.mono`), so the merge of the types that some values show is a type of
them all. Hence all objects that a model was inferred from fit its properties
(`fits_properties_ofSightings`), whatever other models they passed through on the way.
-/

namespace PayloadModels

open Json PropertyType

/-- A value under a key has a type. An array has the types of its items, except that `null` says
nothing about the items. -/
inductive HasType (key : String) : Json → PropertyType → Prop where
  | bool (value : Bool) : HasType key (.bool value) .bool
  | int (value : Int) : HasType key (.num (.int value)) .int
  | intDouble (value : Int) : HasType key (.num (.int value)) .double
  | double (value : Binary64) : HasType key (.num (.float value)) .double
  | string (value : String) : HasType key (.str value) .string
  | object (members : Members) : HasType key (.obj members) (.object (Naming.upperCamel key))
  | array {items : List Json} {element : PropertyType} :
      (∀ item ∈ items, item ≠ .null → HasType key item element) →
      HasType key (.arr items) (.array element)

/-- A value has every type above one that it has. -/
theorem HasType.mono {key : String} {value : Json} {a b : PropertyType} (h : HasType key value a)
    (hle : a ≤ b) : HasType key value b := by
  induction h generalizing b with
  | bool value => cases hle; exact .bool value
  | int value =>
    cases hle with
    | refl => exact .int value
    | intDouble => exact .intDouble value
  | intDouble value => cases hle; exact .intDouble value
  | double value => cases hle; exact .double value
  | string value => cases hle; exact .string value
  | object members => cases hle; exact .object members
  | array hitems ih =>
    cases hle with
    | refl => exact .array hitems
    | array hle => exact .array fun item hitem hne => ih item hitem hne hle

/-! ## Values without conflicts -/

/-- The items of every array in the value agree, as far as they are not `null`. Arrays inside the
objects of the value are no part of it; they are seen with the models of the objects. -/
inductive Uniform (key : String) : Json → Prop where
  | null : Uniform key .null
  | bool (value : Bool) : Uniform key (.bool value)
  | num (value : Number) : Uniform key (.num value)
  | str (value : String) : Uniform key (.str value)
  | obj (members : Members) : Uniform key (.obj members)
  | arr {items : List Json} :
      (∀ a ∈ items, a ≠ .null → ∀ b ∈ items, b ≠ .null →
        Agree (inferType key a) (inferType key b)) →
      (∀ item ∈ items, Uniform key item) → Uniform key (.arr items)

/-- The merge of the types of some values is above each of the types, when every two of the values
that are not `null` agree. -/
theorem inferType_le_foldl {key : String} {values : List Json} {value : Json}
    (h : ∀ a ∈ values, a ≠ .null → ∀ b ∈ values, b ≠ .null →
      Agree (inferType key a) (inferType key b)) (hvalue : value ∈ values) :
    inferType key value ≤ (values.map (inferType key)).foldl mergeOrKeep .unknown := by
  have hagree : ∀ a ∈ unknown :: values.map (inferType key),
      ∀ b ∈ unknown :: values.map (inferType key), Agree a b := by
    intro a ha b hb
    by_cases ha' : a = .unknown
    · rw [ha']; exact agree_unknown_left b
    by_cases hb' : b = .unknown
    · rw [hb']; exact (agree_unknown_left a).symm
    obtain ⟨va, hva, rfl⟩ := List.mem_map.1 (List.mem_of_ne_of_mem ha' ha)
    obtain ⟨vb, hvb, rfl⟩ := List.mem_map.1 (List.mem_of_ne_of_mem hb' hb)
    exact h va hva (mt inferType_eq_unknown.2 ha') vb hvb (mt inferType_eq_unknown.2 hb')
  have hlub := isLUB_foldl_mergeOrKeep .unknown (values.map (inferType key)) hagree
  exact hlub.1 (List.mem_cons_of_mem _ (List.mem_map_of_mem hvalue))

/-- The type of an array's elements is merged from the types of its items, in order. -/
theorem inferElement_eq_foldl (key : String) (soFar : PropertyType) (items : List Json) :
    inferElement key soFar items = (items.map (inferType key)).foldl mergeOrKeep soFar := by
  induction items generalizing soFar with
  | nil => rfl
  | cons item items ih => rw [inferElement, ih]; rfl

/-- A value has the type that it shows. -/
theorem hasType_inferType {key : String} {value : Json} (h : Uniform key value)
    (hne : value ≠ .null) : HasType key value (inferType key value) := by
  induction h with
  | null => exact absurd rfl hne
  | bool value => exact .bool value
  | num value =>
    cases value with
    | int value => exact .int value
    | float value => exact .double value
  | str value => exact .string value
  | obj members => exact .object members
  | arr hagree _ ih =>
    rw [inferType, inferElement_eq_foldl]
    refine .array fun item hitem hne => ?_
    have htype := ih item hitem hne
    exact htype.mono (inferType_le_foldl hagree hitem)

/-! ## Properties -/

/-- What a property promises of an object. -/
structure Property.Fits (property : Property) (members : Members) : Prop where
  /-- A property that is not optional has a value. -/
  required : property.isOptional = false →
    ∃ value, members.get? property.key = some value ∧ value ≠ .null
  /-- A value has the property's type. -/
  hasType : ∀ value, members.get? property.key = some value → value ≠ .null →
    HasType property.key value property.type

/-- The values that some objects have for a key. -/
def valuesOf (key : String) (objects : List Members) : List Json :=
  objects.filterMap (·.get? key)

namespace ObservedModel

variable {objects : List Members} {key : String}

/-- The fields of a key are the one that is found, and so are its properties. -/
theorem filter_properties_foldl_record (propertyName : String → String) :
    ((objects.foldl record ∅).properties propertyName).filter (·.key = key)
      = ((objects.foldl record ∅).field? key).toList.map fun field =>
          { key := field.key, name := propertyName field.key, type := field.type
            isOptional := (objects.foldl record ∅).fieldIsOptional field } := by
  rw [properties, List.filter_map]
  simp only [Function.comp_def, (nodupKeys_foldl_record objects).filter_fields key]

/-- A key that some object has is the key of exactly one property. -/
theorem exists_filter_properties_eq_singleton (propertyName : String → String)
    (h : ∀ members ∈ objects, (members.map (·.1)).Nodup) {members : Members}
    (hmembers : members ∈ objects) (hkey : (members.get? key).isSome) :
    ∃ property, ((objects.foldl record ∅).properties propertyName).filter (·.key = key)
      = [property] := by
  rw [filter_properties_foldl_record]
  cases hfield : (objects.foldl record ∅).field? key with
  | some field => exact ⟨_, rfl⟩
  | none =>
    have hnone : (objects.foldl record ∅).isOptional? key = none := by rw [isOptional?, hfield]; rfl
    rw [(isOptional?_foldl_record_eq_none h).1 hnone members hmembers] at hkey
    cases hkey

/-- When the values of a key agree, the objects that a model has seen fit the key's properties. -/
theorem fits_of_mem_properties (h : ∀ members ∈ objects, (members.map (·.1)).Nodup)
    (hagree : ∀ a ∈ valuesOf key objects, ∀ b ∈ valuesOf key objects,
      Agree (inferType key a) (inferType key b))
    (huniform : ∀ value ∈ valuesOf key objects, Uniform key value)
    {propertyName : String → String} {property : Property}
    (hproperty : property ∈ (objects.foldl record ∅).properties propertyName)
    (hkey : property.key = key) {members : Members} (hmembers : members ∈ objects) :
    property.Fits members := by
  have hfilter : property
      ∈ ((objects.foldl record ∅).properties propertyName).filter (·.key = key) :=
    List.mem_filter.2 ⟨hproperty, decide_eq_true hkey⟩
  rw [filter_properties_foldl_record, List.mem_map] at hfilter
  obtain ⟨field, hmem, rfl⟩ := hfilter
  have hfield : (objects.foldl record ∅).field? key = some field := by simpa using hmem
  constructor
  · intro hrequired
    have hoptional : (objects.foldl record ∅).isOptional? key = some false := by
      rw [isOptional?, hfield]
      exact congrArg some hrequired
    -- Nothing makes the key optional, so this object in particular has a value for it.
    have hnot := mt (isOptional?_foldl_record_eq_some h hoptional).2 Bool.false_ne_true
    have hfieldKey : field.key = key := hkey
    cases hget : members.get? key with
    | none => exact absurd ⟨members, hmembers, .inl hget⟩ hnot
    | some value =>
      refine ⟨value, hfieldKey ▸ hget, ?_⟩
      rintro rfl
      exact hnot ⟨members, hmembers, .inr hget⟩
  · intro value hget hne
    rw [field?_foldl_record, typesUnder_eq_map h, ObservedField.ofTypes_eq_some] at hfield
    obtain ⟨-, rfl⟩ := hfield
    have hvalue : value ∈ valuesOf key objects := List.mem_filterMap.2 ⟨members, hmembers, hget⟩
    have htype := hasType_inferType (huniform value hvalue) hne
    exact htype.mono (inferType_le_foldl (fun a ha _ b hb _ => hagree a ha b hb) hvalue)

end ObservedModel

namespace ModelSet

/-- After any calls on a set that begins empty, a key whose values agree, in a model, is the key of
exactly one property of the model once an object of the model has the key, and all objects of the
model fit it. -/
theorem fits_properties_ofSightings (sightings : List Sighting)
    (h : ∀ sighting ∈ sightings, sighting.value.DistinctKeys) (model key : String)
    (hagree : ∀ a ∈ valuesOf key (objectsOf model sightings),
      ∀ b ∈ valuesOf key (objectsOf model sightings), Agree (inferType key a) (inferType key b))
    (huniform : ∀ value ∈ valuesOf key (objectsOf model sightings), Uniform key value)
    (propertyName : String → String) :
    let properties :=
      ((ofSightings sightings).get? model).elim [] (·.properties propertyName)
    (∀ members ∈ objectsOf model sightings, (members.get? key).isSome →
        ∃ property, properties.filter (·.key = key) = [property]) ∧
      ∀ property ∈ properties, property.key = key →
        ∀ members ∈ objectsOf model sightings, property.Fits members := by
  intro properties
  have hnodup : ∀ members ∈ objectsOf model sightings, (members.map (·.1)).Nodup :=
    fun members => nodup_keys_of_mem_objectsOf h
  simp only [properties, get?_ofSightings]
  split
  · next hnil => simp [hnil]
  · next hne =>
    rw [Option.elim_some]
    refine ⟨fun members hmembers hkey => ?_, fun property hproperty hkey members hmembers => ?_⟩
    · exact ObservedModel.exists_filter_properties_eq_singleton propertyName hnodup hmembers hkey
    · exact ObservedModel.fits_of_mem_properties hnodup hagree huniform hproperty hkey hmembers

/-- A shoe inside a shoe, the sizes of both: `null` among the sizes says nothing, and one size that
is no integer makes all of them doubles. -/
theorem fits_properties_sizes :
    let sizes : List Json := [.num (.int 7), .null, .num (.float .one)]
    let sightings : List Sighting :=
      [.payload "Shoe" (.arr [.obj [("sizes", .arr sizes), ("shoe", .obj [("sizes", .arr [])])]])]
    let property : Property := ⟨"sizes", "sizes", .array .double, false⟩
    (∀ sighting ∈ sightings, sighting.value.DistinctKeys) ∧
      property ∈ ((ofSightings sightings).get? "Shoe").elim [] (·.properties id) ∧
      property.Fits [("sizes", .arr [])] := by
  intro sizes sightings property
  have hkeys : ∀ sighting ∈ sightings, sighting.value.DistinctKeys := by
    simp [sightings, sizes, Sighting.value]
  have hobjects : objectsOf "Shoe" sightings
      = [[("sizes", .arr sizes), ("shoe", .obj [("sizes", .arr [])])], [("sizes", .arr [])]] := by
    rfl
  have hvalues : valuesOf "sizes" (objectsOf "Shoe" sightings) = [.arr sizes, .arr []] := by rfl
  have hagree : ∀ a ∈ valuesOf "sizes" (objectsOf "Shoe" sightings),
      ∀ b ∈ valuesOf "sizes" (objectsOf "Shoe" sightings),
        Agree (inferType "sizes" a) (inferType "sizes" b) := by
    rw [hvalues]
    decide
  have hitems : ∀ a ∈ sizes, ∀ b ∈ sizes, Agree (inferType "sizes" a) (inferType "sizes" b) := by
    decide
  have huniform : ∀ value ∈ valuesOf "sizes" (objectsOf "Shoe" sightings),
      Uniform "sizes" value := by
    rw [hvalues]
    simp only [List.forall_mem_cons, List.not_mem_nil, false_imp_iff, implies_true, and_true]
    refine ⟨.arr (fun a ha _ b hb _ => hitems a ha b hb) ?_, .arr (by simp) (by simp)⟩
    simp [sizes, Uniform.num, Uniform.null]
  have hproperty : property ∈ ((ofSightings sightings).get? "Shoe").elim [] (·.properties id) := by
    rw [get?_ofSightings, hobjects, if_neg (by simp), Option.elim_some]
    decide
  obtain ⟨-, hfits⟩ :=
    fits_properties_ofSightings sightings hkeys "Shoe" "sizes" hagree huniform id
  exact ⟨hkeys, hproperty, hfits property hproperty rfl _ (by simp [hobjects])⟩

end ModelSet

end PayloadModels
