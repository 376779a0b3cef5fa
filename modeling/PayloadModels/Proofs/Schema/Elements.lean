import PayloadModels.Proofs.Schema.Conformance
import PayloadModels.Proofs.Schema.TypeNames

/-!
# Elements of arrays

The elements of an array have the type that merging the types of its items gives, one after another
from nothing, where an item that does not agree with those before it is passed over and `null` shows
nothing (`inferElement_eq_foldl_elementTypes`). So the first item that is not `null` is never passed
over. When every two of the items agree, none is: the type is the least upper bound of the types of
all items, and depends on nothing but which items there are (`inferType_arr`).
-/

namespace PayloadModels

open PropertyType

variable {key : String} {items others : List Json}

/-- The check for `null` tells it from every other value. -/
theorem Json.isNull_eq_false_iff {value : Json} : value.isNull = false ↔ value ≠ .null := by
  cases value <;> simp [isNull]

/-- The types that the items of an array show for a key; `null` shows none. -/
def elementTypes (key : String) (items : List Json) : List PropertyType :=
  (items.filter (!·.isNull)).map (inferType key)

/-- The types that count for elements are those of the items that are not `null`. -/
theorem mem_elementTypes {type : PropertyType} :
    type ∈ elementTypes key items ↔ ∃ item ∈ items, item ≠ .null ∧ inferType key item = type := by
  simp [elementTypes, Json.isNull_eq_false_iff, and_assoc]

/-- An item that is not `null` adds its type. -/
theorem elementTypes_cons_of_ne {item : Json} (h : item ≠ .null) :
    elementTypes key (item :: items) = inferType key item :: elementTypes key items := by
  rw [elementTypes, List.filter_cons_of_pos (by simp [Json.isNull_eq_false_iff.2 h])]
  rfl

/-- The elements have the merge of the types that the items show. -/
theorem inferElement_eq_foldl_elementTypes (key : String) (soFar : PropertyType)
    (items : List Json) :
    inferElement key soFar items = (elementTypes key items).foldl mergeOrKeep soFar := by
  induction items generalizing soFar with
  | nil => rfl
  | cons item items ih =>
    rw [inferElement, ih]
    by_cases h : item = .null
    · subst h
      rw [inferType, mergeOrKeep_unknown_right]
      rfl
    · rw [elementTypes_cons_of_ne h]
      rfl

/-- The first item that is not `null` is not passed over. -/
theorem inferType_le_inferElement {first : Json} (h : items.find? (!·.isNull) = some first) :
    inferType key first ≤ inferElement key .unknown items := by
  rw [← List.head?_filter, List.head?_eq_some_iff] at h
  obtain ⟨rest, hrest⟩ := h
  rw [inferElement_eq_foldl_elementTypes, elementTypes, hrest, List.map_cons, List.foldl_cons,
    mergeOrKeep_unknown_left]
  exact le_foldl_mergeOrKeep _ _

/-- Every two of the items that are not `null` show types that agree. -/
def ItemsAgree (key : String) (items : List Json) : Prop :=
  ∀ a ∈ items, a ≠ .null → ∀ b ∈ items, b ≠ .null → Agree (inferType key a) (inferType key b)

/-- When every two items agree, none of them is passed over. -/
theorem isLUB_inferElement (h : ItemsAgree key items) :
    IsLUB {type | type ∈ elementTypes key items} (inferElement key .unknown items) := by
  rw [inferElement_eq_foldl_elementTypes]
  refine isLUB_foldl_unknown fun a ha b hb => ?_
  obtain ⟨first, hfirst, hnull, rfl⟩ := mem_elementTypes.1 ha
  obtain ⟨second, hsecond, hnull', rfl⟩ := mem_elementTypes.1 hb
  exact h first hfirst hnull second hsecond hnull'

/-- The type of an array of items of which every two agree depends on nothing but which items there
are, `null` apart. -/
theorem inferElement_congr (h : ItemsAgree key items)
    (hothers : ∀ item, item ≠ .null → (item ∈ others ↔ item ∈ items)) :
    inferElement key .unknown others = inferElement key .unknown items := by
  have hagree : ItemsAgree key others := fun a ha hnull b hb hnull' =>
    h a ((hothers a hnull).1 ha) hnull b ((hothers b hnull').1 hb) hnull'
  have htypes : ∀ type, type ∈ elementTypes key others ↔ type ∈ elementTypes key items := by
    intro type
    rw [mem_elementTypes, mem_elementTypes]
    exact exists_congr fun item => and_congr_left fun hitem => hothers item hitem.1
  have hlub := isLUB_inferElement hagree
  simp only [htypes] at hlub
  exact hlub.unique (isLUB_inferElement h)

/-- The type of an array has one type for its elements. When every two of the items that are not
`null` agree, that is the least upper bound of their types, and items in another order, repetitions
and more or fewer `null`s give the same type; there is nothing to know of elements that are all
`null`. Whether the items agree or not, the type of the first that is not `null` is at or below it.
And the type of a value mentions no model but the one that its key names. -/
theorem inferType_arr (key : String) (items : List Json) :
    ∃ element, inferType key (.arr items) = .array element ∧
      (ItemsAgree key items →
        IsLUB {type | ∃ item ∈ items, item ≠ .null ∧ inferType key item = type} element ∧
          ∀ others : List Json, (∀ item, item ≠ .null → (item ∈ others ↔ item ∈ items)) →
            inferType key (.arr others) = .array element) ∧
      ((∀ item ∈ items, item = .null) → element = .unknown) ∧
      (∀ first, items.find? (!·.isNull) = some first → inferType key first ≤ element) ∧
      ∀ value, (inferType key value).modelName? = none ∨
        (inferType key value).modelName? = some (Naming.upperCamel key) := by
  refine ⟨inferElement key .unknown items, rfl, fun hagree => ⟨?_, fun others hothers => ?_⟩,
    fun hnull => ?_, fun first => inferType_le_inferElement, fun value => ?_⟩
  · have hlub := isLUB_inferElement hagree
    simpa only [mem_elementTypes] using hlub
  · rw [inferType, inferElement_congr hagree hothers]
  · have htypes : elementTypes key items = [] := by
      rw [List.eq_nil_iff_forall_not_mem]
      intro type htype
      obtain ⟨item, hitem, hne, -⟩ := mem_elementTypes.1 htype
      exact hne (hnull item hitem)
    rw [inferElement_eq_foldl_elementTypes, htypes]
    rfl
  · cases hmodel : (inferType key value).modelName? with
    | none => exact .inl rfl
    | some model => exact .inr (congrArg some (eq_of_mem_modelName?_inferType hmodel))

/-- Scores in another order, with one of them twice and without the `null`. -/
theorem inferType_arr_scores :
    let items : List Json := [.null, .num (.int 4), .num (.float .one)]
    let others : List Json := [.num (.float .one), .num (.int 4), .num (.float .one)]
    ItemsAgree "scores" items ∧ (∀ item, item ≠ .null → (item ∈ others ↔ item ∈ items)) ∧
      ∃ element, inferType "scores" (.arr items) = .array element ∧
        inferType "scores" (.arr others) = .array element ∧
        IsLUB {.int, .double} element := by
  intro items others
  have hagree : ItemsAgree "scores" items := by
    have hall : ∀ a ∈ items, ∀ b ∈ items, Agree (inferType "scores" a) (inferType "scores" b) := by
      decide
    exact fun a ha _ b hb _ => hall a ha b hb
  have hothers : ∀ item, item ≠ .null → (item ∈ others ↔ item ∈ items) := by
    intro item hitem
    simp only [items, others, List.mem_cons, List.not_mem_nil, or_false, hitem, false_or]
    tauto
  obtain ⟨element, helement, hlub, -⟩ := inferType_arr "scores" items
  obtain ⟨hlub, hsame⟩ := hlub hagree
  refine ⟨hagree, hothers, element, helement, hsame others hothers, ?_⟩
  have htypes : {type | ∃ item ∈ items, item ≠ .null ∧ inferType "scores" item = type}
      = {.int, .double} := by
    ext type
    simp [items, inferType, eq_comm]
  rwa [htypes] at hlub

end PayloadModels
