import Mathlib.Data.List.Basic
import Mathlib.Data.List.Induction
import PayloadModels.Proofs.Schema.Fields

/-!
# What a model keeps of its observations

A model is fed one observation after another: an iteration begins, or a key occurs with a type. Any
order will do, also one that no payload leads to, such as a key that occurs before any iteration.
What the model keeps is told at once by the observations (`Keeps`, `keeps_ofObservations`): the keys
in the order in which they first occurred, and for each key what the types that it occurred with
come to. An object of the model is an iteration and one occurrence for each of its members, so of
any number of objects the model keeps the keys and, under each key, the types of the values
(`keys_foldl_record`, `field?_foldl_record`).
-/

namespace PayloadModels

open Json

/-! ## Texts in the order in which they are first seen -/

/-- One more text is put at the end, unless it was seen before. -/
theorem eraseDups_concat (texts : List String) (text : String) :
    (texts ++ [text]).eraseDups
      = if text ∈ texts then texts.eraseDups else texts.eraseDups ++ [text] := by
  rw [List.eraseDups_append, List.removeAll]
  by_cases h : text ∈ texts <;> simp [h, List.eraseDups_cons]

/-- Texts that were all seen before add nothing, wherever they come again. -/
theorem eraseDups_append_of_subset {front again : List String} (h : again ⊆ front)
    (back : List String) : (front ++ again ++ back).eraseDups = (front ++ back).eraseDups := by
  have hnew : again.removeAll front = [] := by
    simpa [List.removeAll] using fun text htext => h htext
  have hback : back.removeAll (front ++ again) = back.removeAll front := by
    refine List.filter_congr fun text _ => ?_
    by_cases htext : text ∈ front
    · simp [htext]
    · simp [htext, mt (@h text) htext]
  rw [List.eraseDups_append, List.eraseDups_append, List.eraseDups_append, hnew, hback,
    List.eraseDups_nil, List.append_nil]

/-! ## Observations -/

/-- One call that feeds a model. -/
inductive Observation where
  /-- An iteration begins. -/
  | iteration
  /-- A key occurs with a type. -/
  | occurrence (key : String) (type : PropertyType)
  deriving DecidableEq, Repr

namespace Observation

/-- The keys that occur, with repetition. -/
def keys (observations : List Observation) : List String :=
  observations.filterMap fun
    | iteration => none
    | occurrence key _ => some key

/-- The types that a key occurs with. -/
def typesOf (key : String) (observations : List Observation) : List PropertyType :=
  observations.filterMap fun
    | iteration => none
    | occurrence other type => if other = key then some type else none

end Observation

open Observation

namespace ObservedModel

/-- The model after one more observation. -/
def feed (model : ObservedModel) : Observation → ObservedModel
  | iteration => model.beginIteration
  | occurrence key type => model.observe key type

/-- The model that begins empty, after some observations. -/
def ofObservations (observations : List Observation) : ObservedModel := observations.foldl feed ∅

variable {model : ObservedModel} {observations : List Observation}

/-- What a model keeps of observations. -/
structure Keeps (model : ObservedModel) (observations : List Observation) : Prop where
  nodupKeys : model.NodupKeys
  keys : model.keys = (Observation.keys observations).eraseDups
  field? : ∀ key, model.field? key = ObservedField.ofTypes key (typesOf key observations)

/-- A model of which nothing was seen keeps no observations. -/
theorem keeps_empty : Keeps ∅ [] := ⟨nodupKeys_empty, rfl, fun _ => rfl⟩

/-- The beginning of an iteration changes no field. -/
theorem Keeps.beginIteration (h : model.Keeps observations) :
    model.beginIteration.Keeps (observations ++ [.iteration]) where
  nodupKeys := h.nodupKeys
  keys := by
    show model.keys = _
    simpa [Observation.keys] using h.keys
  field? key := by
    show model.field? key = _
    simpa [typesOf] using h.field? key

/-- One more occurrence of a key is one more type of the key, and of no other. -/
theorem Keeps.observe (h : model.Keeps observations) (key : String) (type : PropertyType) :
    (model.observe key type).Keeps (observations ++ [.occurrence key type]) where
  nodupKeys := h.nodupKeys.observe key type
  keys := by
    have hkeys : Observation.keys (observations ++ [.occurrence key type])
        = Observation.keys observations ++ [key] := List.filterMap_append
    rw [keys_observe, hkeys, eraseDups_concat, h.keys]
    simp only [List.mem_eraseDups]
  field? other := by
    rw [field?_observe]
    by_cases heq : other = key
    · subst heq
      have htypes : typesOf other (observations ++ [.occurrence other type])
          = typesOf other observations ++ [type] := by simp [typesOf]
      rw [if_pos rfl, htypes, ObservedField.ofTypes_concat, h.field?]
    · have htypes : typesOf other (observations ++ [.occurrence key type])
          = typesOf other observations := by simp [typesOf, Ne.symm heq]
      rw [if_neg heq, htypes, h.field?]

/-- What a model keeps is told by the observations that it was fed. -/
theorem keeps_ofObservations (observations : List Observation) :
    (ofObservations observations).Keeps observations := by
  induction observations using List.reverseRecOn with
  | nil => exact keeps_empty
  | append_singleton observations next ih =>
    rw [ofObservations, List.foldl_append]
    cases next with
    | iteration => exact ih.beginIteration
    | occurrence key type => exact ih.observe key type

end ObservedModel

/-! ## Objects as observations -/

namespace Json.Members

/-- The keys of an object. -/
def keys (members : Members) : List String := members.map (·.1)

/-- What an object shows to its model. -/
def observations (members : Members) : List Observation :=
  .iteration :: members.map fun member => .occurrence member.1 (inferType member.1 member.2)

/-- The keys that an object shows are its own. -/
theorem keys_observations (members : Members) :
    Observation.keys members.observations = members.keys := by
  simp [Observation.keys, observations, keys, List.filterMap_map]

/-- An object shows a key with the types of what it holds under it. -/
theorem typesOf_observations (key : String) (members : Members) :
    typesOf key members.observations = (members.under key).map (inferType key) := by
  show (members.map _).filterMap _ = _
  induction members with
  | nil => rfl
  | cons member members ih =>
    by_cases heq : member.1 = key <;> simp_all [under]

end Json.Members

namespace ObservedModel

/-- Recording an object feeds its observations, one after another. -/
theorem record_eq_foldl_feed (model : ObservedModel) (members : Members) :
    model.record members = members.observations.foldl feed model := by
  rw [Members.observations, List.foldl_cons, List.foldl_map]
  rfl

/-- Recording objects feeds the observations of all of them. -/
theorem foldl_record_eq_ofObservations (objects : List Members) :
    objects.foldl record ∅ = ofObservations (objects.flatMap Members.observations) := by
  have hrecord : record = fun model members => members.observations.foldl feed model :=
    funext fun model => funext model.record_eq_foldl_feed
  rw [ofObservations, List.foldl_flatMap, hrecord]

/-- A model that was inferred from objects keeps what they show. -/
theorem keeps_foldl_record (objects : List Members) :
    (objects.foldl record ∅).Keeps (objects.flatMap Members.observations) :=
  foldl_record_eq_ofObservations objects ▸ keeps_ofObservations _

/-- A model that was inferred from objects has no field twice. -/
theorem nodupKeys_foldl_record (objects : List Members) : (objects.foldl record ∅).NodupKeys :=
  (keeps_foldl_record objects).nodupKeys

/-- The keys of a model are those of its objects, in the order in which they were first seen. -/
theorem keys_foldl_record (objects : List Members) :
    (objects.foldl record ∅).keys = (objects.flatMap Members.keys).eraseDups := by
  rw [(keeps_foldl_record objects).keys, Observation.keys, List.filterMap_flatMap]
  exact congrArg List.eraseDups (List.flatMap_congr fun members _ => members.keys_observations)

/-- A key's field has been seen with the types that the objects show for the key. -/
theorem field?_foldl_record (key : String) (objects : List Members) :
    (objects.foldl record ∅).field? key = ObservedField.ofTypes key (typesUnder key objects) := by
  rw [(keeps_foldl_record objects).field?, typesOf, List.filterMap_flatMap, typesUnder,
    List.map_flatMap]
  exact congrArg _ (List.flatMap_congr fun members _ => members.typesOf_observations key)

end ObservedModel

end PayloadModels
