import Mathlib.Order.Bounds.Basic
import PayloadModels.Schema.Property

/-!
# The order of types

Types are ordered by how much they have seen (`Below`), and `join?` finds the least upper bound of
two types whenever they have an upper bound at all (`isLUB_of_join?`, `agree_iff`). Bounds are
coherent: if three types agree two by two, then all three have an upper bound (`Agree.join`). So a
list of types of which every two agree has a least upper bound, and merging the types one after
another, in any order and with no type left out, arrives at it (`isLUB_foldl_mergeOrKeep`).
-/

namespace PayloadModels.PropertyType

/-- `a` has seen no more than `b`: `unknown` is below every type, `int` is below `double`, and
arrays follow their elements. -/
inductive Below : PropertyType → PropertyType → Prop where
  | refl (a : PropertyType) : Below a a
  | unknown (b : PropertyType) : Below .unknown b
  | intDouble : Below .int .double
  | array {a b : PropertyType} : Below a b → Below (.array a) (.array b)

/-- What is below a type that is below another is below that one. -/
theorem Below.trans {a b c : PropertyType} (hab : Below a b) (hbc : Below b c) : Below a c := by
  induction hab generalizing c with
  | refl => exact hbc
  | unknown => exact .unknown c
  | intDouble => cases hbc; exact .intDouble
  | array _ ih =>
    cases hbc with
    | refl => exact .array (ih (.refl _))
    | array h => exact .array (ih h)

/-- Two types that are below each other are equal. -/
theorem Below.antisymm {a b : PropertyType} (hab : Below a b) (hba : Below b a) : a = b := by
  induction hab with
  | refl => rfl
  | unknown => cases hba <;> rfl
  | intDouble => cases hba
  | array _ ih =>
    cases hba with
    | refl => rfl
    | array h => rw [ih h]

instance : PartialOrder PropertyType where
  le := Below
  le_refl := .refl
  le_trans _ _ _ := .trans
  le_antisymm _ _ hab hba := Below.antisymm hab hba

/-- `unknown` is below every type. -/
theorem unknown_le (a : PropertyType) : unknown ≤ a := .unknown a

/-- `int` is below `double`. -/
theorem int_le_double : int ≤ double := .intDouble

/-- Arrays of types that are in order are in order. -/
theorem array_le_array {a b : PropertyType} (h : a ≤ b) : array a ≤ array b := .array h

/-- Arrays are ordered as their elements are. -/
theorem array_le_array_iff {a b : PropertyType} : array a ≤ array b ↔ a ≤ b := by
  refine ⟨fun h => ?_, array_le_array⟩
  cases h with
  | refl => exact le_rfl
  | array h => exact h

/-! ## Least upper bounds -/

@[simp] theorem join?_unknown_left (a : PropertyType) : join? unknown a = some a := by
  cases a <;> rfl

@[simp] theorem join?_unknown_right (a : PropertyType) : join? a unknown = some a := by
  cases a <;> rfl

@[simp] theorem join?_self (a : PropertyType) : join? a a = some a := by
  induction a with
  | array a ih => simp [join?, ih]
  | _ => simp [join?]

/-- A join is above both types, and below everything that is above both. -/
theorem isLUB_of_join? {a b t : PropertyType} (h : join? a b = some t) : IsLUB {a, b} t := by
  rw [isLUB_iff_le_iff]
  intro u
  simp only [upperBounds_insert, upperBounds_singleton, Set.mem_inter_iff, Set.mem_Ici]
  fun_induction join? a b generalizing t u with
  | case1 b => cases h; exact ⟨fun h => ⟨unknown_le u, h⟩, (·.2)⟩
  | case2 a => cases h; exact ⟨fun h => ⟨h, unknown_le u⟩, (·.1)⟩
  | case3 => cases h; exact ⟨fun h => ⟨int_le_double.trans h, h⟩, (·.2)⟩
  | case4 => cases h; exact ⟨fun h => ⟨h, int_le_double.trans h⟩, (·.1)⟩
  | case5 a b ih =>
    obtain ⟨t, ht, rfl⟩ := Option.map_eq_some_iff.1 h
    constructor
    · intro hu
      have hle : a ≤ t ∧ b ≤ t := (ih ht t).1 le_rfl
      exact ⟨(array_le_array hle.1).trans hu, (array_le_array hle.2).trans hu⟩
    · rintro ⟨ha, hb⟩
      cases u with
      | array u =>
        have hu := (ih ht u).2 ⟨array_le_array_iff.1 ha, array_le_array_iff.1 hb⟩
        exact array_le_array hu
      | _ => cases ha
  | case6 a => cases h; exact ⟨fun h => ⟨h, h⟩, (·.1)⟩
  | case7 => cases h

/-- Two types with an upper bound have a join. -/
theorem exists_join?_of_le {a b u : PropertyType} (ha : a ≤ u) (hb : b ≤ u) :
    ∃ t, join? a b = some t := by
  fun_induction join? a b generalizing u with
  | case1 | case2 | case3 | case4 | case6 => exact ⟨_, rfl⟩
  | case5 a b ih =>
    cases u with
    | array u =>
      obtain ⟨t, ht⟩ := ih (array_le_array_iff.1 ha) (array_le_array_iff.1 hb)
      exact ⟨array t, by rw [ht]; rfl⟩
    | _ => cases ha
  | case7 => cases ha <;> cases hb <;> simp_all

/-! ## Types that agree -/

/-- Two types agree: they merge without a conflict. -/
def Agree (a b : PropertyType) : Prop := ∃ type, merge a b = .ok type

/-- Merging gives the join, where there is one. -/
theorem merge_eq_ok {a b t : PropertyType} : merge a b = .ok t ↔ join? a b = some t := by
  unfold merge
  cases join? a b <;> simp

/-- Types agree when they have a join. -/
theorem agree_iff_join? {a b : PropertyType} : Agree a b ↔ ∃ t, join? a b = some t := by
  simp only [Agree, merge_eq_ok]

instance (a b : PropertyType) : Decidable (Agree a b) :=
  decidable_of_iff (join? a b).isSome (by rw [agree_iff_join?, Option.isSome_iff_exists])

/-- Types agree when some type is above both. -/
theorem agree_iff {a b : PropertyType} : Agree a b ↔ ∃ u, a ≤ u ∧ b ≤ u := by
  rw [agree_iff_join?]
  constructor
  · rintro ⟨t, ht⟩
    have hlub := (isLUB_of_join? ht).1
    exact ⟨t, hlub (by simp), hlub (by simp)⟩
  · rintro ⟨u, ha, hb⟩
    exact exists_join?_of_le ha hb

/-- A type agrees with itself. -/
theorem Agree.refl (a : PropertyType) : Agree a a := agree_iff.2 ⟨a, le_rfl, le_rfl⟩

/-- Types agree either way. -/
theorem Agree.symm {a b : PropertyType} (h : Agree a b) : Agree b a := by
  obtain ⟨u, ha, hb⟩ := agree_iff.1 h
  exact agree_iff.2 ⟨u, hb, ha⟩

/-- Arrays agree as their elements do. -/
theorem agree_array_iff {a b : PropertyType} : Agree (array a) (array b) ↔ Agree a b := by
  simp [agree_iff_join?, join?]

/-- Every type agrees with `unknown`. -/
theorem agree_unknown_left (a : PropertyType) : Agree unknown a :=
  agree_iff.2 ⟨a, unknown_le a, le_rfl⟩

/-- Agreement is coherent: a type that agrees with two types agrees with their join. -/
theorem Agree.join {a b c t : PropertyType} (hab : join? a b = some t) (hac : Agree a c)
    (hbc : Agree b c) : Agree t c := by
  fun_induction join? a b generalizing t c with
  | case1 | case3 => cases hab; exact hbc
  | case2 | case4 | case6 => cases hab; exact hac
  | case5 a b ih =>
    obtain ⟨t, ht, rfl⟩ := Option.map_eq_some_iff.1 hab
    cases c with
    | array c => exact agree_array_iff.2 (ih ht (agree_array_iff.1 hac) (agree_array_iff.1 hbc))
    | _ => simp_all [agree_iff_join?, join?]
  | case7 => cases hab

/-! ## Merging a list of types -/

@[simp] theorem mergeOrKeep_unknown_left (a : PropertyType) : mergeOrKeep unknown a = a := by
  simp [mergeOrKeep]

@[simp] theorem mergeOrKeep_unknown_right (a : PropertyType) : mergeOrKeep a unknown = a := by
  simp [mergeOrKeep]

/-- When every two of some types agree, merging them one after another gives their least upper
bound. -/
theorem isLUB_foldl_mergeOrKeep (start : PropertyType) (types : List PropertyType)
    (h : ∀ a ∈ start :: types, ∀ b ∈ start :: types, Agree a b) :
    IsLUB {a | a ∈ start :: types} (types.foldl mergeOrKeep start) := by
  induction types generalizing start with
  | nil => simp [isLUB_singleton]
  | cons b types ih =>
    obtain ⟨t, ht⟩ := agree_iff_join?.1 (h start (by simp) b (by simp))
    have hagree : ∀ c ∈ types, Agree t c := fun c hc =>
      .join ht (h start (by simp) c (by simp [hc])) (h b (by simp) c (by simp [hc]))
    have hfold := ih t fun c hc d hd => by
      rcases List.mem_cons.1 hc with rfl | hc' <;> rcases List.mem_cons.1 hd with rfl | hd'
      · exact .refl _
      · exact hagree d hd'
      · exact (hagree c hc').symm
      · exact h c (by simp [hc']) d (by simp [hd'])
    have hstep : mergeOrKeep start b = t := by simp [mergeOrKeep, ht]
    rw [List.foldl_cons, hstep]
    -- `t` is bounded by exactly what bounds `start` and `b`, so it can stand for the two.
    rw [isLUB_iff_le_iff] at hfold ⊢
    intro u
    have hpair := (isLUB_iff_le_iff.1 (isLUB_of_join? ht)) u
    simp only [mem_upperBounds, Set.mem_ofPred_eq, List.forall_mem_cons, Set.mem_insert_iff,
      Set.mem_singleton_iff, forall_eq_or_imp, forall_eq] at hfold hpair ⊢
    rw [hfold u, hpair, and_assoc]

/-- When every two of some types agree, merging them all from nothing gives their least upper
bound. -/
theorem isLUB_foldl_unknown {types : List PropertyType}
    (h : ∀ a ∈ types, ∀ b ∈ types, Agree a b) :
    IsLUB {a | a ∈ types} (types.foldl mergeOrKeep unknown) := by
  have hagree : ∀ a ∈ unknown :: types, ∀ b ∈ unknown :: types, Agree a b := by
    intro a ha b hb
    rcases List.mem_cons.1 ha with rfl | ha
    · exact agree_unknown_left b
    · rcases List.mem_cons.1 hb with rfl | hb
      · exact (agree_unknown_left a).symm
      · exact h a ha b hb
  have hlub := isLUB_foldl_mergeOrKeep unknown types hagree
  rw [isLUB_iff_le_iff] at hlub ⊢
  intro u
  rw [hlub u]
  simp [mem_upperBounds, unknown_le]

/-- Types of which every two agree merge to the same type in any order. -/
theorem foldl_mergeOrKeep_eq_of_perm {types others : List PropertyType} (hperm : types.Perm others)
    (h : ∀ a ∈ types, ∀ b ∈ types, Agree a b) :
    types.foldl mergeOrKeep unknown = others.foldl mergeOrKeep unknown := by
  have hothers : ∀ a ∈ others, ∀ b ∈ others, Agree a b := fun a ha b hb =>
    h a (hperm.mem_iff.2 ha) b (hperm.mem_iff.2 hb)
  have hsame : {a | a ∈ types} = {a | a ∈ others} := Set.ext fun a => hperm.mem_iff
  have hlub := isLUB_foldl_unknown hothers
  rw [← hsame] at hlub
  exact (isLUB_foldl_unknown h).unique hlub

/-! ## Types that a merge has seen -/

/-- A merge keeps the first type or goes above it. -/
theorem le_mergeOrKeep (a b : PropertyType) : a ≤ mergeOrKeep a b := by
  rw [mergeOrKeep]
  cases h : join? a b with
  | none => exact le_rfl
  | some t => exact (isLUB_of_join? h).1 (by simp)

/-- A merge changes nothing when the second type is below the first, or does not agree with it. -/
theorem mergeOrKeep_eq_left_iff {a b : PropertyType} :
    mergeOrKeep a b = a ↔ b ≤ a ∨ ¬ Agree a b := by
  rw [mergeOrKeep, agree_iff_join?]
  cases h : join? a b with
  | none => simp
  | some t =>
    have hlub := isLUB_of_join? h
    rw [Option.getD_some]
    constructor
    · rintro rfl
      exact .inl (hlub.1 (by simp))
    · rintro (hle | hnot)
      · exact le_antisymm (hlub.2 (by simp [hle])) (hlub.1 (by simp))
      · exact absurd ⟨t, rfl⟩ hnot

/-- A type that was merged once changes nothing when it is merged again: it is below the merge, or
was refused. -/
theorem mergeOrKeep_mergeOrKeep_self (a b : PropertyType) :
    mergeOrKeep (mergeOrKeep a b) b = mergeOrKeep a b := by
  rw [mergeOrKeep_eq_left_iff, mergeOrKeep, agree_iff_join?]
  cases h : join? a b with
  | none => exact .inr (by simp [h])
  | some t => exact .inl ((isLUB_of_join? h).1 (by simp))

/-- What changes nothing now changes nothing after other types were merged: a type that was refused
is refused by every type above. -/
theorem mergeOrKeep_eq_left_of_le {a b t : PropertyType} (h : mergeOrKeep a b = a) (hle : a ≤ t) :
    mergeOrKeep t b = t := by
  rw [mergeOrKeep_eq_left_iff] at h ⊢
  rcases h with hbelow | hrefused
  · exact .inl (hbelow.trans hle)
  · refine .inr fun hagree => hrefused ?_
    obtain ⟨u, ht, hb⟩ := agree_iff.1 hagree
    exact agree_iff.2 ⟨u, hle.trans ht, hb⟩

/-- Merging types into one does not go below it. -/
theorem le_foldl_mergeOrKeep (start : PropertyType) (types : List PropertyType) :
    start ≤ types.foldl mergeOrKeep start := by
  induction types generalizing start with
  | nil => exact le_rfl
  | cons type types ih => exact (le_mergeOrKeep start type).trans (ih _)

/-- A merge of many types has seen each of them, conflicts or not. -/
theorem mergeOrKeep_foldl_of_mem {type : PropertyType} {types : List PropertyType}
    (h : type ∈ types) (start : PropertyType) :
    mergeOrKeep (types.foldl mergeOrKeep start) type = types.foldl mergeOrKeep start := by
  induction types generalizing start with
  | nil => cases h
  | cons first types ih =>
    rw [List.foldl_cons]
    rcases List.mem_cons.1 h with rfl | h
    · exact mergeOrKeep_eq_left_of_le (mergeOrKeep_mergeOrKeep_self start type)
        (le_foldl_mergeOrKeep _ types)
    · exact ih h _

/-- A merge has seen nothing only when there was nothing to see. -/
theorem foldl_mergeOrKeep_eq_unknown_iff {types : List PropertyType} :
    types.foldl mergeOrKeep unknown = unknown ↔ ∀ type ∈ types, type = unknown := by
  constructor
  · intro h type htype
    have hseen := mergeOrKeep_foldl_of_mem htype unknown
    rwa [h, mergeOrKeep_unknown_left] at hseen
  · intro h
    induction types with
    | nil => rfl
    | cons type types ih =>
      obtain ⟨rfl, hrest⟩ := List.forall_mem_cons.1 h
      exact ih hrest

/-- The first type that says something is never passed over. -/
theorem le_foldl_mergeOrKeep_of_find? {types : List PropertyType} {first : PropertyType}
    (h : types.find? (· ≠ unknown) = some first) : first ≤ types.foldl mergeOrKeep unknown := by
  obtain ⟨-, before, after, rfl, hbefore⟩ := List.find?_eq_some_iff_append.1 h
  have hnothing : before.foldl mergeOrKeep unknown = unknown :=
    foldl_mergeOrKeep_eq_unknown_iff.2 (by simpa using hbefore)
  rw [List.foldl_append, hnothing, List.foldl_cons, mergeOrKeep_unknown_left]
  exact le_foldl_mergeOrKeep first after

/-- Types that come again after they were all merged change nothing, wherever they come. -/
theorem foldl_mergeOrKeep_append_of_subset {front again : List PropertyType} (h : again ⊆ front)
    (back : List PropertyType) (start : PropertyType) :
    (front ++ again ++ back).foldl mergeOrKeep start = (front ++ back).foldl mergeOrKeep start := by
  have hagain : ∀ types ⊆ front,
      types.foldl mergeOrKeep (front.foldl mergeOrKeep start) = front.foldl mergeOrKeep start := by
    intro types htypes
    induction types with
    | nil => rfl
    | cons type types ih =>
      obtain ⟨htype, htypes⟩ := List.cons_subset.1 htypes
      rw [List.foldl_cons, mergeOrKeep_foldl_of_mem htype, ih htypes]
  rw [List.foldl_append, List.foldl_append, List.foldl_append, hagain again h]

/-!
## Merging types

Merging two types gives their least upper bound when they have an upper bound (`merge_eq_ok_iff`),
and otherwise a conflict that carries the two as they are (`merge_eq_error_iff`), not the elements
that disagree inside two arrays. A third type that is merged with the result makes
it the least upper bound of all three (`exists_merge_merge_iff`). So neither success nor the result
depends on which two of them are merged first (`isLUB_merge`).
-/

variable {a b c s t : PropertyType}

/-- Types agree when they have an upper bound. -/
theorem agree_iff_bddAbove : Agree a b ↔ BddAbove {a, b} := by
  rw [agree_iff]
  simp [BddAbove, Set.Nonempty]

/-- Merging gives the least upper bound, where there is one. -/
theorem merge_eq_ok_iff : merge a b = .ok t ↔ IsLUB {a, b} t := by
  rw [merge_eq_ok]
  refine ⟨isLUB_of_join?, fun h => ?_⟩
  have ha : a ≤ t := h.1 (Set.mem_insert a {b})
  have hb : b ≤ t := h.1 (Set.mem_insert_of_mem a (Set.mem_singleton b))
  obtain ⟨s, hs⟩ := exists_join?_of_le ha hb
  rw [hs, (isLUB_of_join? hs).unique h]

/-- A conflict carries the two types, which have no upper bound. -/
theorem merge_eq_error_iff {conflict : TypeConflict} :
    merge a b = .error conflict ↔ ¬ BddAbove {a, b} ∧ conflict = ⟨a, b⟩ := by
  rw [← agree_iff_bddAbove, agree_iff_join?, merge]
  cases join? a b with
  | none => simp [eq_comm]
  | some t => simp

example : merge (.array .string) (.array .bool) = .error ⟨.array .string, .array .bool⟩ := rfl

/-- A least upper bound stands for the two types that it bounds. -/
theorem upperBounds_of_isLUB (h : IsLUB {a, b} s) (c : PropertyType) :
    upperBounds {s, c} = upperBounds {a, b, c} := by
  have hpair := h.upperBounds_eq
  simp only [upperBounds_insert, upperBounds_singleton] at hpair ⊢
  rw [← hpair, Set.inter_assoc]

/-- Merging with a third type gives the least upper bound of the three, if there is one. -/
theorem exists_merge_merge_iff :
    (∃ s, merge a b = .ok s ∧ merge s c = .ok t) ↔ IsLUB {a, b, c} t := by
  constructor
  · rintro ⟨s, hs, ht⟩
    rw [merge_eq_ok_iff] at hs ht
    exact (isLUB_congr (upperBounds_of_isLUB hs c)).1 ht
  · intro h
    have ha : a ≤ t := h.1 (Set.mem_insert a {b, c})
    have hb : b ≤ t := h.1 (Set.mem_insert_of_mem a (Set.mem_insert b {c}))
    obtain ⟨s, hs⟩ := agree_iff.2 ⟨t, ha, hb⟩
    refine ⟨s, hs, ?_⟩
    rw [merge_eq_ok_iff] at hs ⊢
    exact (isLUB_congr (upperBounds_of_isLUB hs c)).2 h

/-- Merging is the least upper bound, where there is an upper bound, and else reports the two types.
So it is idempotent, commutative, and, with a third type, associative: in success and in the
result. -/
theorem isLUB_merge (a b : PropertyType) :
    (∀ t, merge a b = .ok t ↔ IsLUB {a, b} t) ∧
      ((∃ t, merge a b = .ok t) ↔ BddAbove {a, b}) ∧
      (∀ conflict, merge a b = .error conflict ↔ ¬ BddAbove {a, b} ∧ conflict = ⟨a, b⟩) ∧
      merge a a = .ok a ∧
      (∀ t, merge a b = .ok t ↔ merge b a = .ok t) ∧
      ∀ c t, (∃ s, merge a b = .ok s ∧ merge s c = .ok t)
        ↔ ∃ s, merge b c = .ok s ∧ merge s a = .ok t := by
  refine ⟨fun t => merge_eq_ok_iff, agree_iff_bddAbove, fun conflict => merge_eq_error_iff, ?_,
    fun t => ?_, fun c t => ?_⟩
  · rw [merge_eq_ok, join?_self]
  · rw [merge_eq_ok_iff, merge_eq_ok_iff, Set.pair_comm]
  · have hrotated : ({a, b, c} : Set PropertyType) = {b, c, a} := by
      rw [Set.insert_comm, Set.pair_comm a c]
    rw [exists_merge_merge_iff, exists_merge_merge_iff, hrotated]

end PayloadModels.PropertyType
