import PayloadModels.Proofs.Schema.Instances
import Std.Data.HashMap.Lemmas

/-!
# The index of a model set

A set finds its models through an index from names to places. The index is right when the names
are pairwise distinct and it maps exactly these names, each to its place (`Consistent`), which
holds of the empty set and is kept by every change (`Consistent.update`). Under it a change to one
model is seen under that model's name and under no other (`get?_update`), what is found under a name
is what is listed under it (`Consistent.get?_eq_some_iff`), and what a model has become after many
objects were recorded depends on its own objects only (`get?_recordAll`).
-/

namespace PayloadModels.ModelSet

open Json

/-- The names of the models are distinct, and the index maps exactly these, each to its place. -/
structure Consistent (set : ModelSet) : Prop where
  nodup : set.names.Nodup
  index_eq_some_iff : ∀ (name : String) (i : Nat),
    set.index[name]? = some i ↔ set.names[i]? = some name

/-- The index of the empty set is right. -/
theorem consistent_empty : Consistent ∅ where
  nodup := List.nodup_nil
  index_eq_some_iff name i := by
    show (∅ : Std.HashMap String Nat)[name]? = some i ↔ ([] : List String)[i]? = some name
    simp

section
variable {set : ModelSet} {name other : String} {model : ObservedModel}
  {change : ObservedModel → ObservedModel}

/-- A change to a model that is there leaves the index and the names alone. -/
theorem update_of_some {i : Nat} (h : set.index[name]? = some i) :
    set.update name change
      = { set with models := set.models.modify i fun (name, model) => (name, change model) } := by
  rw [update, h]

/-- A change to a model that is not there puts it at the end. -/
theorem update_of_none (h : set.index[name]? = none) :
    set.update name change = ⟨set.models ++ [(name, change ∅)],
      set.index.insert name set.models.length⟩ := by
  rw [update, h]

/-- Changing a model that is there leaves the names as they are. -/
theorem names_update_of_some {i : Nat} (h : set.index[name]? = some i) :
    (set.update name change).names = set.names := by
  rw [update_of_some h, names, names]
  apply List.ext_getElem? fun j => ?_
  rw [List.getElem?_map, List.getElem?_map, List.getElem?_modify]
  split <;> simp [Option.map_map, Function.comp_def]

/-- A model that is not there is added with its name, at the end. -/
theorem names_update_of_none (h : set.index[name]? = none) :
    (set.update name change).names = set.names ++ [name] := by
  simp [update_of_none h, names]

/-- A name that the index does not have is listed nowhere. -/
theorem Consistent.not_mem_names (hset : set.Consistent) (h : set.index[name]? = none) :
    name ∉ set.names := by
  intro hmem
  obtain ⟨i, hi⟩ := List.getElem?_of_mem hmem
  rw [← hset.index_eq_some_iff] at hi
  rw [h] at hi
  cases hi

/-- Changes keep the index right. -/
theorem Consistent.update (hset : set.Consistent) : (set.update name change).Consistent := by
  cases h : set.index[name]? with
  | some i =>
    refine ⟨by rw [names_update_of_some h]; exact hset.nodup, fun other j => ?_⟩
    rw [names_update_of_some h, update_of_some h]
    exact hset.index_eq_some_iff other j
  | none =>
    have hnew := hset.not_mem_names h
    refine ⟨?_, fun other j => ?_⟩
    · rw [names_update_of_none h, List.nodup_append]
      refine ⟨hset.nodup, List.pairwise_singleton _ name, fun a ha b hb => ?_⟩
      rw [List.mem_singleton.1 hb]
      exact ne_of_mem_of_not_mem ha hnew
    · rw [names_update_of_none h, update_of_none h]
      show (set.index.insert name set.models.length)[other]? = some j ↔ _
      have hlen : set.names.length = set.models.length := List.length_map _
      rw [Std.HashMap.getElem?_insert, List.getElem?_append, hlen]
      by_cases heq : name = other
      · subst heq
        simp only [BEq.rfl, if_true, Option.some.injEq]
        split
        · next hj =>
          refine ⟨fun he => by omega, fun he => absurd (List.mem_of_getElem? he) hnew⟩
        · next hj => simp [List.getElem?_singleton]; omega
      · simp only [beq_iff_eq, heq, if_false, hset.index_eq_some_iff]
        split
        · rfl
        · next hj =>
          rw [List.getElem?_eq_none (by omega)]
          simp [List.getElem?_singleton, heq]

/-- A change to a model is seen under its name, and nothing else is seen. -/
theorem get?_update (hset : set.Consistent) :
    (set.update name change).get? other
      = if other = name then some (change ((set.get? name).getD ∅)) else set.get? other := by
  cases h : set.index[name]? with
  | some i =>
    obtain ⟨model, hmodel⟩ : ∃ model, set.models[i]? = some (name, model) := by
      have hi := (hset.index_eq_some_iff name i).1 h
      rw [names, List.getElem?_map, Option.map_eq_some_iff] at hi
      obtain ⟨⟨_, model⟩, hmodel, rfl⟩ := hi
      exact ⟨model, hmodel⟩
    rw [update_of_some h]
    by_cases heq : other = name
    · subst heq
      simp [get?, h, hmodel]
    · simp only [get?, heq, if_false]
      refine Option.bind_congr fun j hj => ?_
      have hne : i ≠ j := by
        rintro rfl
        have hi := (hset.index_eq_some_iff _ _).1 h
        rw [(hset.index_eq_some_iff _ _).1 hj] at hi
        exact heq (Option.some.inj hi)
      simp [hne]
  | none =>
    rw [update_of_none h]
    by_cases heq : other = name
    · subst heq
      simp [get?, h]
    · simp only [get?, heq, if_false, Std.HashMap.getElem?_insert, beq_iff_eq, Ne.symm heq]
      refine Option.bind_congr fun j hj => ?_
      have hi := (hset.index_eq_some_iff _ _).1 hj
      have hj : j < set.models.length := by
        simpa [names] using (List.getElem?_eq_some_iff.1 hi).1
      rw [List.getElem?_append_left hj]

/-! ## What is found and what is listed -/

/-- The names stand in the places of the models. -/
theorem getElem?_names {i : Nat} (h : set.models[i]? = some (name, model)) :
    set.names[i]? = some name := by
  rw [names, List.getElem?_map, h]
  rfl

/-- What is found under a name is what is listed under it. -/
theorem Consistent.get?_eq_some_iff (hset : set.Consistent) :
    set.get? name = some model ↔ (name, model) ∈ set.models := by
  rw [get?, Option.bind_eq_some_iff]
  constructor
  · rintro ⟨i, hi, hmodel⟩
    obtain ⟨⟨listed, _⟩, hentry, rfl⟩ := Option.map_eq_some_iff.1 hmodel
    have hname := (hset.index_eq_some_iff _ _).1 hi
    obtain rfl : listed = name := Option.some.inj ((getElem?_names hentry).symm.trans hname)
    exact List.mem_of_getElem? hentry
  · intro hmem
    obtain ⟨i, hentry⟩ := List.getElem?_of_mem hmem
    exact ⟨i, (hset.index_eq_some_iff _ _).2 (getElem?_names hentry), by rw [hentry]; rfl⟩

/-- Nothing is found under the names that are not listed. -/
theorem Consistent.get?_eq_none_iff (hset : set.Consistent) :
    set.get? name = none ↔ name ∉ set.names := by
  simp [Option.eq_none_iff_forall_ne_some, hset.get?_eq_some_iff, names]

/-- A change to a model is made where the model is listed; a name that is new is listed last. -/
theorem Consistent.models_update (hset : set.Consistent) : (set.update name change).models
    = if name ∈ set.names then
        set.models.map fun (other, model) => (other, if other = name then change model else model)
      else set.models ++ [(name, change ∅)] := by
  cases h : set.index[name]? with
  | none => rw [update_of_none h, if_neg (hset.not_mem_names h)]
  | some i =>
    have hi := (hset.index_eq_some_iff name i).1 h
    rw [update_of_some h, if_pos (List.mem_of_getElem? hi)]
    refine List.ext_getElem? fun j => ?_
    rw [List.getElem?_modify, List.getElem?_map]
    cases hentry : set.models[j]? with
    | none => rfl
    | some entry =>
      obtain ⟨other, model⟩ := entry
      have hj := getElem?_names hentry
      -- Names are listed once, so the place tells the name.
      have hplace : i = j ↔ other = name := by
        constructor
        · rintro rfl
          exact Option.some.inj (hj.symm.trans hi)
        · rintro rfl
          exact Option.some.inj (h.symm.trans ((hset.index_eq_some_iff _ _).2 hj))
      by_cases heq : other = name <;> simp [hplace, heq]

end

/-! ## Recording many objects -/

/-- Recording objects keeps the index right. -/
theorem Consistent.recordAll {set : ModelSet} (hset : set.Consistent)
    (instances : List (String × Members)) : (set.recordAll instances).Consistent := by
  induction instances generalizing set with
  | nil => exact hset
  | cons instance_ instances ih => exact ih hset.update

/-- What a model has become is told by its own objects. -/
theorem get?_recordAll {set : ModelSet} (hset : set.Consistent) (name : String)
    (instances : List (String × Members)) :
    (set.recordAll instances).get? name
      = if membersOf name instances = [] then set.get? name
        else some ((membersOf name instances).foldl .record ((set.get? name).getD ∅)) := by
  induction instances generalizing set with
  | nil => rfl
  | cons head instances ih =>
    obtain ⟨owner, members⟩ := head
    have hstep : (set.recordAll ((owner, members) :: instances)).get? name
        = ((set.record owner members).recordAll instances).get? name := rfl
    rw [hstep, record, ih hset.update, get?_update hset]
    by_cases heq : owner = name
    · rw [membersOf_cons, if_pos heq, if_pos heq.symm, List.foldl_cons, Option.getD_some,
        if_neg (List.cons_ne_nil _ _), heq]
      split
      · next hnil => rw [hnil]; rfl
      · rfl
    · rw [membersOf_cons, if_neg heq, if_neg (Ne.symm heq)]

/-- A set of models has of each model exactly what recording the objects of the model gives. -/
theorem get?_ofSightings (sightings : List Sighting) (name : String) :
    (ofSightings sightings).get? name
      = if objectsOf name sightings = [] then none
        else some ((objectsOf name sightings).foldl .record ∅) := by
  rw [ofSightings_eq_recordAll, get?_recordAll consistent_empty]
  have hempty : (∅ : ModelSet).get? name = none := by
    show (∅ : Std.HashMap String Nat)[name]?.bind _ = none
    simp
  rw [hempty]
  rfl

/-!
## Models by name

The index of a set is right at every moment of the calls that feed it, also between the objects of
one payload (`IsReached.consistent`). So a set finds by its name each model that it lists, and no
other, and it never lists a second model under a name: an object is recorded in the model that is
listed under its name, if there is one (`index_agrees_ofSightings`).
-/

/-- The set has been reached while calls are made on a set that begins empty: the objects that they
show have been recorded up to one of them. -/
def IsReached (sightings : List Sighting) (set : ModelSet) : Prop :=
  ∃ recorded, recorded <+: sightings.flatMap Sighting.instances ∧ set = recordAll ∅ recorded

/-- The set at the end of the calls is one that is reached. -/
theorem isReached_ofSightings (sightings : List Sighting) :
    IsReached sightings (ofSightings sightings) :=
  ⟨_, List.prefix_rfl, ofSightings_eq_recordAll sightings⟩

/-- The index of a set that is reached is right. -/
theorem IsReached.consistent {sightings : List Sighting} {set : ModelSet}
    (h : IsReached sightings set) : set.Consistent := by
  obtain ⟨recorded, -, rfl⟩ := h
  exact consistent_empty.recordAll recorded

/-- At every moment of any calls on a set that begins empty, and at their end, the names of the
models are distinct, and the index has exactly these, each with its place. So a name has the model
that is listed under it, and none if it is not listed, and the next object of a name changes the
model that is listed under it; only a name that is not listed gets a model, at the end. -/
theorem index_agrees_ofSightings (sightings : List Sighting) :
    IsReached sightings (ofSightings sightings) ∧
      ∀ set, IsReached sightings set →
        set.names.Nodup ∧
        (∀ (name : String) (i : Nat), set.index[name]? = some i ↔ set.names[i]? = some name) ∧
        (∀ name model, set.get? name = some model ↔ (name, model) ∈ set.models) ∧
        (∀ name, set.get? name = none ↔ name ∉ set.names) ∧
        ∀ name members, (set.record name members).models = if name ∈ set.names then
            set.models.map fun (other, model) =>
              (other, if other = name then model.record members else model)
          else set.models ++ [(name, ObservedModel.record ∅ members)] := by
  refine ⟨isReached_ofSightings sightings, fun set hreached => ?_⟩
  have hset := hreached.consistent
  exact ⟨hset.nodup, hset.index_eq_some_iff, fun _ _ => hset.get?_eq_some_iff,
    fun _ => hset.get?_eq_none_iff, fun _ _ => hset.models_update⟩

/-- An order inside an order. The outer one has been recorded, and its model is found; the inner one
is recorded in the same model. -/
theorem index_agrees_ofSightings_orders :
    let outer : Members := [("id", .num (.int 7)), ("order", .obj [("id", .null)])]
    let sightings : List Sighting := [.object "Order" outer]
    let set : ModelSet := recordAll ∅ [("Order", outer)]
    IsReached sightings set ∧ set.get? "Order" = some (ObservedModel.record ∅ outer) ∧
      set.get? "Id" = none ∧
      (set.record "Order" [("id", .null)]).models
        = [("Order", (ObservedModel.record ∅ outer).record [("id", .null)])] := by
  intro outer sightings set
  have hempty : IsReached sightings ∅ := ⟨[], List.nil_prefix, rfl⟩
  have hreached : IsReached sightings set :=
    ⟨_, List.prefix_append [("Order", outer)] [("Order", [("id", .null)])], rfl⟩
  obtain ⟨-, hagrees⟩ := index_agrees_ofSightings sightings
  obtain ⟨-, -, -, -, hfirst⟩ := hagrees ∅ hempty
  obtain ⟨-, -, hsome, hnone, hnext⟩ := hagrees set hreached
  have hmodels : set.models = [("Order", ObservedModel.record ∅ outer)] := hfirst "Order" outer
  have hnames : set.names = ["Order"] := by rw [names, hmodels]; rfl
  refine ⟨hreached, (hsome _ _).2 (by simp [hmodels]), (hnone _).2 (by simp [hnames]), ?_⟩
  rw [hnext, hnames, hmodels]
  rfl

end PayloadModels.ModelSet
