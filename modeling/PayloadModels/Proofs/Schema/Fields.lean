import PayloadModels.Proofs.Json.Objects
import PayloadModels.Proofs.Schema.TypeOrder
import PayloadModels.Schema.ObservedModel

/-!
# The fields of a model

A model counts as it goes: each object of the model is one iteration, and each field keeps the merge
of its types, its occurrences and whether it was ever `null`. All that a field keeps is told at once
from the types that it has been seen with, in order (`ObservedField.ofTypes`), and one more
occurrence of a key is one more type of the key's field (`field?_observe`). A model has at most one
field for a key (`NodupKeys`), which is the one that is found by the key, and a new key comes last
(`keys_observe`).
-/

namespace PayloadModels

open Json

/-! ## One field -/

namespace ObservedField

/-- The field of a key that has been seen with some types, one after another; there is none if
there are no types. -/
def ofTypes (key : String) (types : List PropertyType) : Option ObservedField :=
  if types = [] then none
  else some ⟨key, types.foldl .mergeOrKeep .unknown, types.length, types.any (· = .unknown)⟩

@[simp] theorem ofTypes_nil (key : String) : ofTypes key [] = none := rfl

/-- There is no field without a type. -/
theorem ofTypes_eq_none {key : String} {types : List PropertyType} :
    ofTypes key types = none ↔ types = [] := by
  unfold ofTypes
  split
  · next h => simp [h]
  · next h => simp [h]

/-- A field has its types merged, counts them, and knows whether one was that of `null`. -/
theorem ofTypes_eq_some {key : String} {types : List PropertyType} {field : ObservedField} :
    ofTypes key types = some field ↔ types ≠ [] ∧
      field = ⟨key, types.foldl .mergeOrKeep .unknown, types.length, types.any (· = .unknown)⟩ := by
  unfold ofTypes
  split
  · next h => simp [h]
  · next h => simp [h, eq_comm]

/-- One more occurrence is one more type. -/
theorem ofTypes_concat (key : String) (types : List PropertyType) (type : PropertyType) :
    ofTypes key (types ++ [type])
      = some ((ofTypes key types).elim (.first key type) (·.again type)) := by
  cases types with
  | nil => simp [ofTypes, first]
  | cons head tail => simp [ofTypes, again, List.foldl_append, Bool.or_assoc]

end ObservedField

/-! ## The field of a key -/

/-- The values that an object holds under a key. -/
def Json.Members.under (key : String) (members : Members) : List Json :=
  (members.filter (·.1 = key)).map (·.2)

/-- An object whose keys are distinct holds under a key what it has for the key. -/
theorem Json.Members.under_eq_toList {members : Members} (key : String)
    (h : (members.map (·.1)).Nodup) : members.under key = (members.get? key).toList := by
  induction members with
  | nil => rfl
  | cons head members ih =>
    obtain ⟨k, value⟩ := head
    obtain ⟨hnew, hrest⟩ := List.nodup_cons.1 h
    rw [Members.get?_cons]
    by_cases heq : key = k
    · subst heq
      -- The key is gone from the rest, so the first member is the only one that counts.
      have hnone : members.filter (·.1 = key) = [] := by
        refine List.filter_eq_nil_iff.2 fun member hmember => ?_
        have hne : member.1 ≠ key := ne_of_mem_of_not_mem (List.mem_map_of_mem hmember) hnew
        simpa using hne
      simp [under, hnone]
    · have hskip : Members.under key ((k, value) :: members) = Members.under key members := by
        simp [under, Ne.symm heq]
      rw [hskip, ih hrest, if_neg heq]

namespace ObservedModel

/-- A type is added to the field of its key, and the fields of other keys stay as they are. -/
theorem find?_observeField (key other : String) (type : PropertyType)
    (fields : List ObservedField) :
    (observeField key type fields).find? (·.key = other)
      = if other = key then some ((fields.find? (·.key = key)).elim (.first key type) (·.again type))
        else fields.find? (·.key = other) := by
  induction fields with
  | nil => by_cases h : other = key <;> simp [observeField, ObservedField.first, h, eq_comm]
  | cons field fields ih =>
    rw [observeField]
    by_cases hkey : field.key = key
    · by_cases h : other = key
      · simp [h, hkey, ObservedField.again]
      · simp [h, hkey, ObservedField.again, Ne.symm h]
    · rw [if_neg hkey, List.find?_cons, List.find?_cons, List.find?_cons, ih]
      by_cases h : other = key
      · simp [h, hkey]
      · simp [h]

/-- One more occurrence of a key is seen in the field of the key, and in no other. -/
theorem field?_observe (model : ObservedModel) (key other : String) (type : PropertyType) :
    (model.observe key type).field? other
      = if other = key then some ((model.field? key).elim (.first key type) (·.again type))
        else model.field? other :=
  find?_observeField key other type model.fields

/-- The types that several objects show for a key. -/
def typesUnder (key : String) (objects : List Members) : List PropertyType :=
  (objects.flatMap (·.under key)).map (inferType key)

/-! ## Iterations -/

/-- Observing members is no iteration. -/
theorem iterations_foldl_observe (model : ObservedModel) (members : Members) :
    (members.foldl (fun model (key, value) => model.observe key (inferType key value))
      model).iterations = model.iterations := by
  induction members generalizing model with
  | nil => rfl
  | cons member members ih => rw [List.foldl_cons, ih]; rfl

/-- Recording an object is one iteration. -/
theorem iterations_record (model : ObservedModel) (members : Members) :
    (model.record members).iterations = model.iterations + 1 :=
  iterations_foldl_observe model.beginIteration members

/-- Every object is one iteration. -/
theorem iterations_foldl_record (model : ObservedModel) (objects : List Members) :
    (objects.foldl record model).iterations = model.iterations + objects.length := by
  induction objects generalizing model with
  | nil => rfl
  | cons members objects ih =>
    rw [List.foldl_cons, ih, iterations_record, List.length_cons]
    omega

/-! ## One field for a key -/

/-- The model has no two fields for one key. -/
def NodupKeys (model : ObservedModel) : Prop := (model.fields.map (·.key)).Nodup

/-- The model of which nothing was seen has no field twice. -/
theorem nodupKeys_empty : NodupKeys ∅ := List.nodup_nil

/-- A key that is new comes last, and one that is known stays where it is. -/
theorem keys_observeField (key : String) (type : PropertyType) (fields : List ObservedField) :
    (observeField key type fields).map (·.key)
      = if key ∈ fields.map (·.key) then fields.map (·.key) else fields.map (·.key) ++ [key] := by
  induction fields with
  | nil => rfl
  | cons field fields ih =>
    rw [observeField]
    split
    · next heq => simp [ObservedField.again, heq]
    · next heq =>
      rw [List.map_cons, List.map_cons, ih]
      by_cases hmem : key ∈ fields.map (·.key)
      · rw [if_pos hmem, if_pos (List.mem_cons_of_mem _ hmem)]
      · have hcons : key ∉ field.key :: fields.map (·.key) := by simp [Ne.symm heq, hmem]
        rw [if_neg hmem, if_neg hcons]
        rfl

/-- The keys of the fields, in order. -/
def keys (model : ObservedModel) : List String := model.fields.map (·.key)

/-- A model's keys stay where they are when a type is observed, and a new key comes last. -/
theorem keys_observe (model : ObservedModel) (key : String) (type : PropertyType) :
    (model.observe key type).keys
      = if key ∈ model.keys then model.keys else model.keys ++ [key] :=
  keys_observeField key type model.fields

/-- Observing a type makes no second field for a key. -/
theorem NodupKeys.observe {model : ObservedModel} (h : model.NodupKeys) (key : String)
    (type : PropertyType) : (model.observe key type).NodupKeys := by
  rw [NodupKeys, ObservedModel.observe, keys_observeField]
  split
  · exact h
  · next hnew =>
    rw [List.nodup_append]
    refine ⟨h, List.pairwise_singleton _ key, fun a ha b hb => ?_⟩
    rw [List.mem_singleton.1 hb]
    exact ne_of_mem_of_not_mem ha hnew

/-- The fields for a key are the one that is found. -/
theorem NodupKeys.filter_fields {model : ObservedModel} (h : model.NodupKeys) (key : String) :
    model.fields.filter (·.key = key) = (model.field? key).toList := by
  obtain ⟨iterations, fields⟩ := model
  rw [field?]
  induction fields with
  | nil => rfl
  | cons field fields ih =>
    obtain ⟨hnew, hrest⟩ := List.nodup_cons.1 h
    by_cases heq : field.key = key
    · have hnone : fields.filter (·.key = key) = [] := by
        refine List.filter_eq_nil_iff.2 fun other hother => ?_
        have hne : other.key ≠ field.key := ne_of_mem_of_not_mem (List.mem_map_of_mem hother) hnew
        simpa [← heq] using hne
      simp [heq, hnone]
    · simp only [List.filter_cons, List.find?_cons, heq, decide_false]
      exact ih hrest

end ObservedModel

end PayloadModels
