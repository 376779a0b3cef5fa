import PayloadModels.Proofs.Schema.Discovery

/-!
# Models that types mention

A type mentions at most one model (`modelName?`), and merging types brings up no other. So whatever
values a key has had, the type of its field mentions the model that the key names, if any
(`eq_of_mem_modelName?_property`).
-/

namespace PayloadModels

open Json Naming

namespace PropertyType

variable {model : String}

/-- A join mentions what one of the two types mentions. -/
theorem mem_modelName?_join? {a b t : PropertyType} (h : join? a b = some t)
    (hmodel : model ∈ t.modelName?) : model ∈ a.modelName? ∨ model ∈ b.modelName? := by
  fun_induction join? a b generalizing t with
  | case1 b => cases h; exact .inr hmodel
  | case2 a => cases h; exact .inl hmodel
  | case3 | case4 => cases h; exact .inl hmodel
  | case5 a b ih =>
    obtain ⟨element, helement, rfl⟩ := Option.map_eq_some_iff.1 h
    exact ih helement hmodel
  | case6 a b => cases h; exact .inl hmodel
  | case7 a b => cases h

/-- Merging, or keeping on a conflict, mentions what one of the two types mentions. -/
theorem mem_modelName?_mergeOrKeep {a b : PropertyType} (h : model ∈ (mergeOrKeep a b).modelName?) :
    model ∈ a.modelName? ∨ model ∈ b.modelName? := by
  rw [mergeOrKeep] at h
  cases hjoin : join? a b with
  | none =>
    rw [hjoin] at h
    exact .inl h
  | some t =>
    rw [hjoin] at h
    exact mem_modelName?_join? hjoin h

/-- A list of types that is merged mentions what one of them mentions. -/
theorem mem_modelName?_foldl {start : PropertyType} {types : List PropertyType}
    (h : model ∈ (types.foldl mergeOrKeep start).modelName?) :
    model ∈ start.modelName? ∨ ∃ type ∈ types, model ∈ type.modelName? := by
  induction types generalizing start with
  | nil => exact .inl h
  | cons type types ih =>
    rcases ih h with hstep | ⟨other, hother, hmodel⟩
    · rcases mem_modelName?_mergeOrKeep hstep with hstart | htype
      · exact .inl hstart
      · exact .inr ⟨type, List.mem_cons_self, htype⟩
    · exact .inr ⟨other, List.mem_cons_of_mem _ hother, hmodel⟩

end PropertyType

mutual

/-- The type that a value shows mentions the model that its key names, if any. -/
theorem eq_of_mem_modelName?_inferType {key model : String} :
    ∀ {value : Json}, model ∈ (inferType key value).modelName? → model = upperCamel key
  | .null, h | .bool _, h | .num (.int _), h | .num (.float _), h | .str _, h => by cases h
  | .obj _, h => by cases h; rfl
  | .arr _, h => eq_of_mem_modelName?_inferElement (by intro h; cases h) h

/-- The type of elements mentions the model that the key names, if any. -/
theorem eq_of_mem_modelName?_inferElement {key model : String} :
    ∀ {items : List Json} {soFar : PropertyType},
      (model ∈ soFar.modelName? → model = upperCamel key) →
      model ∈ (inferElement key soFar items).modelName? → model = upperCamel key
  | [], _, hsoFar, h => hsoFar h
  | _ :: _, _, hsoFar, h =>
    eq_of_mem_modelName?_inferElement
      (fun hmerge => (PropertyType.mem_modelName?_mergeOrKeep hmerge).elim hsoFar
        eq_of_mem_modelName?_inferType) h

end

/-- A model that the type of a property mentions is mentioned by a value that some object has for
the property's key. -/
theorem ObservedModel.exists_of_mem_modelName?_property {objects : List Members}
    {propertyName : String → String} {property : Property} {model : String}
    (h : property ∈ (objects.foldl record ∅).properties propertyName)
    (hmodel : model ∈ property.type.modelName?) :
    ∃ members ∈ objects, ∃ value ∈ members.under property.key,
      model ∈ (inferType property.key value).modelName? := by
  obtain ⟨field, hfield, rfl⟩ := List.mem_map.1 h
  have hfound := (nodupKeys_foldl_record objects).field?_key hfield
  rw [field?_foldl_record, ObservedField.ofTypes_eq_some] at hfound
  obtain ⟨-, hfound⟩ := hfound
  have htype : field.type = (typesUnder field.key objects).foldl .mergeOrKeep .unknown :=
    congrArg ObservedField.type hfound
  rw [htype] at hmodel
  rcases PropertyType.mem_modelName?_foldl hmodel with hunknown | ⟨type, hmem, hmodel⟩
  · cases hunknown
  · obtain ⟨value, hvalue, rfl⟩ := List.mem_map.1 hmem
    obtain ⟨members, hmembers, hvalue⟩ := List.mem_flatMap.1 hvalue
    exact ⟨members, hmembers, value, hvalue, hmodel⟩

/-- The type of a property mentions the model that the property's key names, if any. -/
theorem ObservedModel.eq_of_mem_modelName?_property {objects : List Members}
    {propertyName : String → String} {property : Property} {model : String}
    (h : property ∈ (objects.foldl record ∅).properties propertyName)
    (hmodel : model ∈ property.type.modelName?) : model = upperCamel property.key := by
  obtain ⟨members, -, value, -, hvalue⟩ := exists_of_mem_modelName?_property h hmodel
  exact eq_of_mem_modelName?_inferType hvalue

end PayloadModels
