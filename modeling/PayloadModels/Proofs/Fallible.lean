import Mathlib.Data.List.Forall2

/-!
# Computations that can fail

What it is for a computation that can fail to have a result, step by step: after a map of its result
or its error, and for a computation that is done for each element of a list (`mapM_eq_ok_iff`).
-/

namespace PayloadModels

variable {ε δ α β γ : Type}

/-- A mapped computation has the results of the computation, mapped. -/
theorem map_eq_ok_iff {x : Except ε α} {f : α → β} {b : β} :
    x.map f = .ok b ↔ ∃ a, x = .ok a ∧ f a = b := by
  cases x <;> simp [Except.map]

/-- Mapping the result leaves the error. -/
theorem map_eq_error_iff {x : Except ε α} {f : α → β} {e : ε} :
    x.map f = .error e ↔ x = .error e := by
  cases x <;> simp [Except.map]

/-- Mapping the error leaves the result. -/
theorem mapError_eq_ok_iff {x : Except ε α} {f : ε → δ} {a : α} :
    x.mapError f = .ok a ↔ x = .ok a := by
  cases x <;> simp [Except.mapError]

/-- A computation with mapped errors has the errors of the computation, mapped. -/
theorem mapError_eq_error_iff {x : Except ε α} {f : ε → δ} {e : δ} :
    x.mapError f = .error e ↔ ∃ cause, x = .error cause ∧ f cause = e := by
  cases x <;> simp [Except.mapError]

/-- Of three steps, it is all the same which two are taken together. -/
theorem bind_bind {x : Except ε α} {f : α → Except ε β} {g : β → Except ε γ} :
    (x.bind f).bind g = x.bind fun a => (f a).bind g := by
  cases x <;> rfl

/-- Of two related lists, each element of the second one is related to one of the first. -/
theorem exists_of_forall₂_of_mem {r : α → β → Prop} {xs : List α} {ys : List β}
    (h : List.Forall₂ r xs ys) {y : β} (hy : y ∈ ys) : ∃ x ∈ xs, r x y := by
  induction h with
  | nil => cases hy
  | cons hfirst _ ih =>
    rcases List.mem_cons.1 hy with rfl | hy
    · exact ⟨_, List.mem_cons_self, hfirst⟩
    · obtain ⟨x, hx, hxy⟩ := ih hy
      exact ⟨x, List.mem_cons_of_mem _ hx, hxy⟩

section
variable {f : α → Except ε β} {xs again : List α} {ys : List β}

/-- A list of results is one result for each element. -/
theorem mapM_eq_ok_iff : xs.mapM f = .ok ys ↔ List.Forall₂ (fun x y => f x = .ok y) xs ys := by
  induction xs generalizing ys with
  | nil =>
    rw [List.mapM_nil, List.forall₂_nil_left_iff]
    exact ⟨fun h => by cases h; rfl, fun h => by rw [h]; rfl⟩
  | cons x xs ih =>
    rw [List.mapM_cons, List.forall₂_cons_left_iff]
    cases hx : f x with
    | error error =>
      refine ⟨fun h => (by cases h), ?_⟩
      rintro ⟨y, rest, hy, -, -⟩
      cases hy
    | ok y =>
      simp only [Except.ok.injEq, ← ih]
      cases xs.mapM f with
      | error error =>
        refine ⟨fun h => (by cases h), ?_⟩
        rintro ⟨y, rest, -, hrest, -⟩
        cases hrest
      | ok rest =>
        constructor
        · intro h
          cases h
          exact ⟨y, rest, rfl, rfl, rfl⟩
        · rintro ⟨_, _, rfl, hrest, rfl⟩
          cases hrest
          rfl

/-- A list of computations that all have results has the list of these. -/
theorem mapM_eq_ok_map {g : α → β} (h : ∀ x ∈ xs, f x = .ok (g x)) :
    xs.mapM f = .ok (xs.map g) := by
  rw [mapM_eq_ok_iff, List.forall₂_map_right_iff, List.forall₂_same]
  exact h

/-- A list of results fails where one of them does. -/
theorem exists_of_mapM_eq_error {error : ε} (h : xs.mapM f = .error error) :
    ∃ x ∈ xs, f x = .error error := by
  induction xs with
  | nil => cases h
  | cons x xs ih =>
    rw [List.mapM_cons] at h
    cases hx : f x with
    | error first =>
      rw [hx] at h
      cases h
      exact ⟨x, List.mem_cons_self, hx⟩
    | ok y =>
      rw [hx] at h
      cases hrest : xs.mapM f with
      | error first =>
        rw [hrest] at h
        cases h
        obtain ⟨other, hother, hfails⟩ := ih hrest
        exact ⟨other, List.mem_cons_of_mem _ hother, hfails⟩
      | ok rest =>
        rw [hrest] at h
        cases h

/-- What a result always shares with its element, the lists share. -/
theorem map_eq_map_of_mapM (h : xs.mapM f = .ok ys) {g : β → γ} {k : α → γ}
    (hshare : ∀ x y, f x = .ok y → g y = k x) : ys.map g = xs.map k := by
  rw [mapM_eq_ok_iff] at h
  induction h with
  | nil => rfl
  | cons hfirst _ ih => rw [List.map_cons, List.map_cons, ih, hshare _ _ hfirst]

/-- Every element has its result in the list of results. -/
theorem exists_of_mem_of_mapM (h : xs.mapM f = .ok ys) {x : α} (hx : x ∈ xs) :
    ∃ y ∈ ys, f x = .ok y := by
  rw [mapM_eq_ok_iff] at h
  induction h with
  | nil => cases hx
  | cons hfirst _ ih =>
    rcases List.mem_cons.1 hx with rfl | hx
    · exact ⟨_, List.mem_cons_self, hfirst⟩
    · obtain ⟨y, hy, hxy⟩ := ih hx
      exact ⟨y, List.mem_cons_of_mem _ hy, hxy⟩

/-- Every result is that of an element. -/
theorem exists_of_mem_result_of_mapM (h : xs.mapM f = .ok ys) {y : β} (hy : y ∈ ys) :
    ∃ x ∈ xs, f x = .ok y :=
  exists_of_forall₂_of_mem (mapM_eq_ok_iff.1 h) hy

/-- What has a result for each of some elements has one for some of them again. -/
theorem exists_mapM_eq_ok_of_subset (h : xs.mapM f = .ok ys) (hagain : again ⊆ xs) :
    ∃ zs, again.mapM f = .ok zs ∧ zs ⊆ ys := by
  induction again with
  | nil => exact ⟨[], rfl, List.nil_subset ys⟩
  | cons x again ih =>
    obtain ⟨hx, hagain⟩ := List.cons_subset.1 hagain
    obtain ⟨zs, hzs, hsubset⟩ := ih hagain
    obtain ⟨y, hy, hxy⟩ := exists_of_mem_of_mapM h hx
    refine ⟨y :: zs, ?_, List.cons_subset.2 ⟨hy, hsubset⟩⟩
    rw [mapM_eq_ok_iff] at hzs ⊢
    exact .cons hxy hzs

end

end PayloadModels
