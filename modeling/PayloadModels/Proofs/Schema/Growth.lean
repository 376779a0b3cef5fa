import PayloadModels.Proofs.Json.DistinctKeys
import PayloadModels.Proofs.Schema.Discovery

/-!
# More samples

What is known of a model only grows (`ObservedModel.GrowsTo`): no key is lost or moved, counts do
not decrease, types go up in their order, and what is optional stays optional. The last of these is
not remembered but told by two counts that both grow; it is kept because an object has a key at most
once, so that it adds to the occurrences of a key no more than to the iterations
(`ObservedModel.field?_record`). One object makes its model grow, so any number of objects does, and
so does any call on a set of models (`ModelSet.growsTo_see`).
-/

namespace PayloadModels

open Json

/-! ## One model -/

namespace ObservedModel

/-- What one model has become after more was seen of it. -/
structure GrowsTo (old new : ObservedModel) : Prop where
  /-- Keys stay where they are. -/
  keys : old.keys <+: new.keys
  iterations : old.iterations ≤ new.iterations
  /-- The type of a key goes up, if it changes. -/
  type? : ∀ key type, old.type? key = some type → ∃ later, new.type? key = some later ∧ type ≤ later
  /-- A key that is optional stays optional. -/
  isOptional? : ∀ key, old.isOptional? key = some true → new.isOptional? key = some true

/-- A model grows to itself. -/
theorem GrowsTo.refl (model : ObservedModel) : model.GrowsTo model where
  keys := List.prefix_rfl
  iterations := le_rfl
  type? _ type h := ⟨type, h, le_rfl⟩
  isOptional? _ h := h

/-- What a model has grown to grows further. -/
theorem GrowsTo.trans {a b c : ObservedModel} (hab : a.GrowsTo b) (hbc : b.GrowsTo c) :
    a.GrowsTo c where
  keys := hab.keys.trans hbc.keys
  iterations := hab.iterations.trans hbc.iterations
  type? key type h := by
    obtain ⟨next, hnext, hle⟩ := hab.type? key type h
    obtain ⟨last, hlast, hle'⟩ := hbc.type? key next hnext
    exact ⟨last, hlast, hle.trans hle'⟩
  isOptional? key h := hbc.isOptional? key (hab.isOptional? key h)

/-- Observing members only adds keys behind those that are known. -/
theorem keys_prefix_foldl_observe (model : ObservedModel) (members : Members) :
    model.keys <+: (members.foldl
      (fun model (key, value) => model.observe key (inferType key value)) model).keys := by
  induction members generalizing model with
  | nil => exact List.prefix_rfl
  | cons member members ih =>
    obtain ⟨key, value⟩ := member
    have hstep : model.keys <+: (model.observe key (inferType key value)).keys := by
      rw [keys_observe]
      split
      · exact List.prefix_rfl
      · exact List.prefix_append _ _
    exact hstep.trans (ih _)

/-- Members whose keys are distinct are one occurrence of each of the keys. -/
theorem field?_foldl_observe_of_nodup (model : ObservedModel) {members : Members}
    (h : (members.map (·.1)).Nodup) (key : String) :
    (members.foldl (fun model (k, value) => model.observe k (inferType k value)) model).field? key
      = match Members.get? key members with
        | none => model.field? key
        | some value => some ((model.field? key).elim (.first key (inferType key value))
            (·.again (inferType key value))) := by
  induction members generalizing model with
  | nil => rfl
  | cons member members ih =>
    obtain ⟨k, value⟩ := member
    obtain ⟨hnew, hrest⟩ := List.nodup_cons.1 h
    rw [List.foldl_cons, ih _ hrest, Members.get?_cons, field?_observe]
    by_cases heq : key = k
    · -- The key is gone from the other members.
      subst heq
      have hnone : Members.get? key members = none := by
        rw [Members.get?, List.lookup_eq_none_iff]
        intro member hmember
        have hne := ne_of_mem_of_not_mem (List.mem_map_of_mem hmember) hnew
        simpa using hne.symm
      rw [if_pos rfl, if_pos rfl, hnone]
    · rw [if_neg heq, if_neg heq]

/-- An object is one occurrence of each key that it has. -/
theorem field?_record (model : ObservedModel) {members : Members}
    (h : (members.map (·.1)).Nodup) (key : String) :
    (model.record members).field? key = match Members.get? key members with
      | none => model.field? key
      | some value => some ((model.field? key).elim (.first key (inferType key value))
          (·.again (inferType key value))) :=
  field?_foldl_observe_of_nodup model.beginIteration h key

/-- One more object makes its model grow. -/
theorem growsTo_record (model : ObservedModel) {members : Members}
    (h : (members.map (·.1)).Nodup) : model.GrowsTo (model.record members) where
  keys := keys_prefix_foldl_observe model.beginIteration members
  iterations := by
    rw [iterations_record]
    exact Nat.le_succ _
  type? key type htype := by
    obtain ⟨field, hfield, rfl⟩ := Option.map_eq_some_iff.1 htype
    rw [ObservedModel.type?, field?_record model h, hfield]
    cases Members.get? key members with
    | none => exact ⟨field.type, rfl, le_rfl⟩
    | some value => exact ⟨_, rfl, PropertyType.le_mergeOrKeep _ _⟩
  isOptional? key hoptional := by
    obtain ⟨field, hfield, hkey⟩ := Option.map_eq_some_iff.1 hoptional
    rw [fieldIsOptional, Bool.or_eq_true, decide_eq_true_eq] at hkey
    rw [ObservedModel.isOptional?, field?_record model h, hfield]
    cases Members.get? key members with
    | none =>
      refine congrArg some ?_
      rw [fieldIsOptional, Bool.or_eq_true, decide_eq_true_eq, iterations_record]
      exact hkey.imp_right Nat.lt_succ_of_lt
    | some value =>
      refine congrArg some ?_
      rw [fieldIsOptional, Bool.or_eq_true, decide_eq_true_eq, iterations_record]
      refine hkey.imp (fun hnull => ?_) Nat.succ_lt_succ
      simp [ObservedField.again, hnull]

end ObservedModel

/-! ## A set of models -/

namespace ModelSet

/-- What a set of models has become after more was shown to it. -/
structure GrowsTo (old new : ModelSet) : Prop where
  /-- Models stay where they are. -/
  names : old.names <+: new.names
  get? : ∀ name model, old.get? name = some model →
    ∃ later, new.get? name = some later ∧ model.GrowsTo later

/-- A set grows to itself. -/
theorem GrowsTo.refl (set : ModelSet) : set.GrowsTo set where
  names := List.prefix_rfl
  get? _ model h := ⟨model, h, .refl model⟩

/-- What a set has grown to grows further. -/
theorem GrowsTo.trans {a b c : ModelSet} (hab : a.GrowsTo b) (hbc : b.GrowsTo c) :
    a.GrowsTo c where
  names := hab.names.trans hbc.names
  get? name model h := by
    obtain ⟨next, hnext, hgrows⟩ := hab.get? name model h
    obtain ⟨last, hlast, hgrows'⟩ := hbc.get? name next hnext
    exact ⟨last, hlast, hgrows.trans hgrows'⟩

/-- One more object makes its model grow and leaves the others as they are. -/
theorem growsTo_record {set : ModelSet} (hset : set.Consistent) (name : String)
    {members : Members} (h : (members.map (·.1)).Nodup) :
    set.GrowsTo (set.record name members) where
  names := by
    rw [record, names_update hset]
    split
    · exact List.prefix_rfl
    · exact List.prefix_append _ _
  get? other model hmodel := by
    rw [record, get?_update hset]
    split
    · next heq =>
      subst heq
      rw [hmodel]
      exact ⟨_, rfl, model.growsTo_record h⟩
    · exact ⟨model, hmodel, .refl model⟩

/-- Any number of objects makes a set grow. -/
theorem growsTo_recordAll {set : ModelSet} (hset : set.Consistent)
    {instances : List (String × Members)}
    (h : ∀ instance_ ∈ instances, (instance_.2.map (·.1)).Nodup) :
    set.GrowsTo (set.recordAll instances) := by
  induction instances generalizing set with
  | nil => exact .refl set
  | cons instance_ instances ih =>
    obtain ⟨hfirst, hrest⟩ := List.forall_mem_cons.1 h
    exact (growsTo_record hset instance_.1 hfirst).trans (ih hset.update hrest)

/-- Whatever calls were made on a set that began empty, one more call makes it grow: no model and no
key is lost or moved, no count decreases, no type goes down, and no optional key becomes
required. -/
theorem growsTo_see (sightings : List Sighting) (next : Sighting) (h : next.value.DistinctKeys) :
    (ofSightings sightings).GrowsTo ((ofSightings sightings).see next) := by
  rw [see_eq]
  refine growsTo_recordAll (consistent_ofSightings sightings) fun instance_ hinstance => ?_
  obtain ⟨node, hnode, rfl⟩ := List.mem_map.1 hinstance
  exact h.nodup (List.mem_filter.1 hnode).1

/-- An array of orders that contain each other is shown after a first order: the price goes from an
integer to a double, the text for a number is refused, and the note that was `null` once stays
optional although an order has one. -/
theorem growsTo_see_orders :
    let first : Sighting :=
      .object "Order" [("price", .num (.int 3)), ("id", .str "a"), ("note", .null)]
    let next : Sighting := .payload "Order" (.arr [.obj [("price", .num (.float .one)),
      ("id", .num (.int 4)), ("note", .str "b"), ("order", .obj [("price", .str "c")])]])
    next.value.DistinctKeys ∧
      ∃ later, ((ofSightings [first]).see next).get? "Order" = some later ∧
        ["price", "id", "note"] <+: later.keys ∧ 1 ≤ later.iterations ∧
        (∃ type, later.type? "price" = some type ∧ .int ≤ type) ∧
        later.isOptional? "note" = some true := by
  intro first next
  have hkeys : next.value.DistinctKeys := by simp [next, Sighting.value]
  have hold : (ofSightings [first]).get? "Order" = some (([(
      [("price", .num (.int 3)), ("id", .str "a"), ("note", .null)] : Members)]).foldl
        .record ∅) := by
    have hobjects : objectsOf "Order" [first]
        = [[("price", .num (.int 3)), ("id", .str "a"), ("note", .null)]] := by rfl
    rw [get?_ofSightings, hobjects, if_neg (by simp)]
  obtain ⟨later, hlater, hgrows⟩ := (growsTo_see [first] next hkeys).get? "Order" _ hold
  refine ⟨hkeys, later, hlater, hgrows.keys, hgrows.iterations, ?_, ?_⟩
  · exact hgrows.type? "price" .int (by decide)
  · exact hgrows.isOptional? "note" (by decide)

end ModelSet

end PayloadModels
