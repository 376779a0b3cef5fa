import Mathlib.Data.List.Nodup
import Mathlib.Order.Lattice

/-!
# Sorted lists without repetitions

`List.eraseReps` keeps one of each row of equal neighbours (`eraseReps_cons_cons`), so it drops no
member (`mem_eraseReps`). In a sorted list repetitions stand side by side: what is left of one has
each member once and is sorted as before (`nodup_eraseReps`), strictly if the order is one of the
members themselves (`pairwise_lt_eraseReps`). `List.mergeSort` sorts by a key when it compares the
keys (`pairwise_mergeSort_of_key`).
-/

namespace PayloadModels

section
variable {α : Type} [BEq α]

/-- What was collected before stands in front of what is collected. -/
theorem eraseRepsBy_loop (a : α) (as acc : List α) :
    List.eraseRepsBy.loop (· == ·) a as acc = acc.reverse ++ List.eraseReps (a :: as) := by
  induction as generalizing a acc with
  | nil => simp [List.eraseReps, List.eraseRepsBy, List.eraseRepsBy.loop]
  | cons b as ih =>
    rw [List.eraseReps, List.eraseRepsBy, List.eraseRepsBy.loop, List.eraseRepsBy.loop]
    split
    · exact ih a acc
    · rw [ih, ih]
      simp

variable [LawfulBEq α] {a : α} {as : List α}

/-- Of two equal neighbours, one is kept. -/
theorem eraseReps_cons_cons (a b : α) (as : List α) :
    List.eraseReps (a :: b :: as)
      = if a == b then List.eraseReps (b :: as) else a :: List.eraseReps (b :: as) := by
  show List.eraseRepsBy.loop (· == ·) a (b :: as) [] = _
  rw [List.eraseRepsBy.loop]
  by_cases h : a = b
  · subst h
    simp [eraseRepsBy_loop]
  · rw [beq_false_of_ne h]
    exact eraseRepsBy_loop b as [a]

/-- What is dropped is there still: only the members beside equal ones go. -/
theorem mem_eraseReps : a ∈ as.eraseReps ↔ a ∈ as := by
  induction as with
  | nil => rfl
  | cons b as ih =>
    cases as with
    | nil => rfl
    | cons c as =>
      rw [eraseReps_cons_cons]
      split
      · next h => rw [ih, eq_of_beq h]; simp
      · rw [List.mem_cons, ih, List.mem_cons (a := a) (b := b)]

/-- What is in order is in order still, and has each member once. -/
theorem nodup_eraseReps {le : α → α → Prop} (hantisymm : ∀ a b, le a b → le b a → a = b)
    (h : as.Pairwise le) : as.eraseReps.Pairwise le ∧ as.eraseReps.Nodup := by
  induction as with
  | nil => exact ⟨.nil, .nil⟩
  | cons a as ih =>
    obtain ⟨ha, has⟩ := List.pairwise_cons.1 h
    obtain ⟨hordered, hnodup⟩ := ih has
    cases as with
    | nil => exact ⟨List.pairwise_singleton le a, List.nodup_singleton a⟩
    | cons b as =>
      rw [eraseReps_cons_cons]
      split
      · exact ⟨hordered, hnodup⟩
      · next hne =>
        refine ⟨List.pairwise_cons.2 ⟨fun c hc => ha c (mem_eraseReps.1 hc), hordered⟩,
          List.nodup_cons.2 ⟨fun hmem => hne (beq_iff_eq.2 ?_), hnodup⟩⟩
        -- Were it there again, it would lie on both sides of its neighbour.
        rcases List.mem_cons.1 (mem_eraseReps.1 hmem) with heq | hlater
        · exact heq
        · exact hantisymm a b (ha b List.mem_cons_self) ((List.pairwise_cons.1 has).1 a hlater)

/-- Without repetitions, a sorted list is strictly sorted. -/
theorem pairwise_lt_eraseReps [PartialOrder α] (h : as.Pairwise (· ≤ ·)) :
    as.eraseReps.Pairwise (· < ·) := by
  obtain ⟨hordered, hnodup⟩ := nodup_eraseReps (fun _ _ => le_antisymm) h
  exact hordered.imp₂ (fun _ _ => lt_of_le_of_ne) hnodup

end

section
variable {α κ : Type} [LinearOrder κ] {le : α → α → Bool} (key : α → κ)
  (hle : ∀ a b, le a b = true ↔ key a ≤ key b)
include hle

/-- What is sorted by a key is sorted by it. -/
theorem pairwise_mergeSort_of_key (xs : List α) :
    (xs.mergeSort le).Pairwise fun a b => key a ≤ key b := by
  have htrans : ∀ a b c, le a b = true → le b c = true → le a c = true := by
    intro a b c hab hbc
    rw [hle] at hab hbc ⊢
    exact le_trans hab hbc
  have htotal : ∀ a b, (le a b || le b a) = true := by
    intro a b
    rw [Bool.or_eq_true, hle, hle]
    exact le_total (key a) (key b)
  exact (List.pairwise_mergeSort htrans htotal xs).imp (hle _ _).1

/-- A list is sorted alike from whichever order, by a key that tells its members apart. -/
theorem mergeSort_eq_of_perm {xs ys : List α} (hkey : ∀ a ∈ xs, ∀ b ∈ xs, key a = key b → a = b)
    (h : xs.Perm ys) : xs.mergeSort le = ys.mergeSort le := by
  have hperm : (xs.mergeSort le).Perm (ys.mergeSort le) :=
    (List.mergeSort_perm xs le).trans (h.trans (List.mergeSort_perm ys le).symm)
  refine hperm.eq_of_pairwise (fun a b ha hb hab hba => ?_)
    (pairwise_mergeSort_of_key key hle xs) (pairwise_mergeSort_of_key key hle ys)
  rw [List.mem_mergeSort] at ha hb
  exact hkey a ha b (h.mem_iff.2 hb) (le_antisymm hab hba)

end

end PayloadModels
