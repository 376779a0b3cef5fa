import PayloadModels.Proofs.Schema.Discovery

/-!
# The order of samples

A set of models does not depend on the order in which payloads were shown to it, save for the order
in which it lists models and keys, and for the types of keys whose values do not agree
(`perm_ofSightings`). The objects of a model come in another order, and so do the types that they
show for a key; but counts do not ask for the order (`isOptional?_foldl_record`), and types that
agree merge to their least upper bound in any order.
-/

namespace PayloadModels

open Json PropertyType
open scoped List

namespace ObservedModel

/-- A key is optional when it was `null`, or occurred less often than the model. -/
theorem isOptional?_foldl_record (key : String) (objects : List Members) :
    (objects.foldl record ∅).isOptional? key = if typesUnder key objects = [] then none
      else some ((typesUnder key objects).any (· = .unknown)
        || (typesUnder key objects).length < objects.length) := by
  have hcount : (objects.foldl record ∅).iterations = objects.length :=
    (iterations_foldl_record ∅ objects).trans (Nat.zero_add _)
  rw [isOptional?, field?_foldl_record, ObservedField.ofTypes]
  split
  · rfl
  · rw [Option.map_some, fieldIsOptional, hcount]

variable {objects others : List Members}

/-- In another order, objects show the same types for a key, in another order. -/
theorem typesUnder_perm (h : objects ~ others) (key : String) :
    typesUnder key objects ~ typesUnder key others := (h.flatMap_right _).map _

/-- Whether objects show a key does not depend on their order. -/
theorem typesUnder_eq_nil_iff_of_perm (h : objects ~ others) (key : String) :
    typesUnder key objects = [] ↔ typesUnder key others = [] := by
  rw [← List.length_eq_zero_iff, ← List.length_eq_zero_iff, (typesUnder_perm h key).length_eq]

/-- The iterations do not depend on the order of the objects. -/
theorem iterations_foldl_record_eq_of_perm (h : objects ~ others) :
    (objects.foldl record ∅).iterations = (others.foldl record ∅).iterations := by
  rw [iterations_foldl_record, iterations_foldl_record, h.length_eq]

/-- The keys are the same, though perhaps first seen in another order. -/
theorem keys_foldl_record_perm (h : objects ~ others) :
    (objects.foldl record ∅).keys ~ (others.foldl record ∅).keys := by
  have hnodup : ∀ objects : List Members, (objects.foldl record ∅).keys.Nodup :=
    nodupKeys_foldl_record
  rw [List.perm_ext_iff_of_nodup (hnodup objects) (hnodup others)]
  intro key
  rw [keys_foldl_record, keys_foldl_record, List.mem_eraseDups, List.mem_eraseDups]
  exact (h.flatMap_right _).mem_iff

/-- Whether a key is optional does not depend on the order of the objects. -/
theorem isOptional?_foldl_record_eq_of_perm (h : objects ~ others) (key : String) :
    (objects.foldl record ∅).isOptional? key = (others.foldl record ∅).isOptional? key := by
  have htypes := typesUnder_perm h key
  rw [isOptional?_foldl_record, isOptional?_foldl_record, htypes.any_eq, htypes.length_eq,
    h.length_eq]
  simp only [typesUnder_eq_nil_iff_of_perm h key]

/-- When the types of a key agree, the key has their merge for its type in any order. -/
theorem type?_foldl_record_eq_of_perm (h : objects ~ others) {key : String}
    (hagree : ∀ a ∈ typesUnder key objects, ∀ b ∈ typesUnder key objects, Agree a b) :
    (objects.foldl record ∅).type? key = (others.foldl record ∅).type? key := by
  rw [type?_foldl_record, type?_foldl_record,
    foldl_mergeOrKeep_eq_of_perm (typesUnder_perm h key) hagree]
  simp only [typesUnder_eq_nil_iff_of_perm h key]

end ObservedModel

namespace ModelSet

variable {sightings others : List Sighting}

/-- A model has the same objects, in another order. -/
theorem objectsOf_perm (h : sightings ~ others) (name : String) :
    objectsOf name sightings ~ objectsOf name others :=
  ((h.flatMap_right _).filter _).map _

/-- The same names are listed, though perhaps discovered in another order. -/
theorem names_ofSightings_perm (h : sightings ~ others) :
    (ofSightings sightings).names ~ (ofSightings others).names := by
  rw [List.perm_ext_iff_of_nodup (consistent_ofSightings sightings).nodup
    (consistent_ofSightings others).nodup]
  intro name
  rw [names_ofSightings, names_ofSightings, List.mem_eraseDups, List.mem_eraseDups]
  exact ((h.flatMap_right _).map _).mem_iff

/-- The order in which payloads and objects are shown makes no difference to which models there
are, to the iterations and keys of each model, and to which keys are optional; and it makes none to
the type of a key when every two of the types that its values show agree. -/
theorem perm_ofSightings (h : sightings ~ others) :
    (ofSightings sightings).names ~ (ofSightings others).names ∧
      ∀ name,
        ((ofSightings sightings).get? name).map (·.iterations)
            = ((ofSightings others).get? name).map (·.iterations) ∧
          ((ofSightings sightings).get? name).elim [] (·.keys)
            ~ ((ofSightings others).get? name).elim [] (·.keys) ∧
          ∀ key,
            ((ofSightings sightings).get? name).bind (·.isOptional? key)
                = ((ofSightings others).get? name).bind (·.isOptional? key) ∧
              ((∀ a ∈ ObservedModel.typesUnder key (objectsOf name sightings),
                  ∀ b ∈ ObservedModel.typesUnder key (objectsOf name sightings), Agree a b) →
                ((ofSightings sightings).get? name).bind (·.type? key)
                  = ((ofSightings others).get? name).bind (·.type? key)) := by
  refine ⟨names_ofSightings_perm h, fun name => ?_⟩
  have hobjects := objectsOf_perm h name
  have hnone : objectsOf name sightings = [] ↔ objectsOf name others = [] := by
    rw [← List.length_eq_zero_iff, ← List.length_eq_zero_iff, hobjects.length_eq]
  rw [get?_ofSightings, get?_ofSightings]
  simp only [hnone]
  split
  · simp
  · refine ⟨?_, ?_, fun key => ⟨?_, fun hagree => ?_⟩⟩
    · rw [Option.map_some, Option.map_some,
        ObservedModel.iterations_foldl_record_eq_of_perm hobjects]
    · exact ObservedModel.keys_foldl_record_perm hobjects
    · exact ObservedModel.isOptional?_foldl_record_eq_of_perm hobjects key
    · exact ObservedModel.type?_foldl_record_eq_of_perm hobjects hagree

/-- A price that is an integer in one order and a double in the other, inside an order that
contains an order: either way the price is a double and optional, and the order has been seen three
times. -/
theorem perm_ofSightings_orders :
    let whole : Sighting := .object "Order" [("price", .num (.int 3)), ("order", .obj [])]
    let broken : Sighting := .object "Order" [("price", .num (.float .one))]
    [whole, broken] ~ [broken, whole] ∧
      (ofSightings [whole, broken]).names ~ (ofSightings [broken, whole]).names ∧
      ((ofSightings [broken, whole]).get? "Order").map (·.iterations) = some 3 ∧
      ((ofSightings [broken, whole]).get? "Order").bind (·.isOptional? "price") = some true ∧
      ((ofSightings [broken, whole]).get? "Order").bind (·.type? "price") = some .double := by
  intro whole broken
  have hperm : [whole, broken] ~ [broken, whole] := .swap broken whole []
  have hobjects : objectsOf "Order" [whole, broken]
      = [[("price", .num (.int 3)), ("order", .obj [])], [], [("price", .num (.float .one))]] := by
    rfl
  obtain ⟨hnames, hmodels⟩ := perm_ofSightings hperm
  obtain ⟨hiterations, -, hkeys⟩ := hmodels "Order"
  obtain ⟨hoptional, htype⟩ := hkeys "price"
  have hagree : ∀ a ∈ ObservedModel.typesUnder "price" (objectsOf "Order" [whole, broken]),
      ∀ b ∈ ObservedModel.typesUnder "price" (objectsOf "Order" [whole, broken]), Agree a b := by
    rw [hobjects]
    decide
  have htype := htype hagree
  rw [get?_ofSightings, hobjects, if_neg (by simp)] at hiterations hoptional htype
  refine ⟨hperm, hnames, hiterations.symm.trans ?_, hoptional.symm.trans ?_, htype.symm.trans ?_⟩
  all_goals decide

end ModelSet

end PayloadModels
