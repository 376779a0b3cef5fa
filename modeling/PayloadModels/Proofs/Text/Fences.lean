import Mathlib.Data.List.Infix
import PayloadModels.Proofs.Text.Lines

/-!
# Marks and fences

A text that is put together from pieces may hold a mark that none of the pieces holds, where the
mark begins in one piece and ends in another. A fence for a mark is a text that no such occurrence
gets across (`IsFence`): it shares no end with the mark. Between fences, a text holds the mark only
if one of its pieces does (`IsFence.infix_append_append_iff`), and so it stays when characters are
replaced by fences (`infix_flatMap_iff`).
-/

namespace PayloadModels.Text

/-- A text holds the characters that are looked for when they stand in it side by side. -/
theorem contains_iff {mark : String} {cs : List Char} :
    contains mark cs = true ↔ mark.toList <:+: cs := by
  rw [contains]
  induction cs with
  | nil =>
    rw [cutAt]
    cases hmark : mark.toList <;> simp
  | cons c cs ih =>
    rw [cutAt, List.infix_cons_iff, ← ih]
    split
    · next rest hrest =>
      simp only [Option.isSome_some, true_iff]
      exact .inl ⟨rest, List.isPrefixOf?_eq_some_iff_append_eq.1 hrest⟩
    · next hnone =>
      have hstart : ¬ mark.toList <+: c :: cs := by
        rintro ⟨rest, hrest⟩
        rw [List.isPrefixOf?_eq_some_iff_append_eq.2 hrest] at hnone
        cases hnone
      simp [hstart]

/-- No occurrence of the mark gets across the fence, or only into it. -/
structure IsFence (mark fence : List Char) : Prop where
  notInside : ¬ mark <:+: fence
  notAcross : ¬ fence <:+: mark
  notInto : ∀ back ∈ mark.tails, back ≠ [] → ¬ back <+: fence
  notOutOf : ∀ front ∈ mark.inits, front ≠ [] → ¬ front <:+ fence

variable {mark fence : List Char}

/-- A text that has a character which the mark has not, and neither end of the mark, is a fence. -/
theorem IsFence.of_ends (hhead : mark.head?.any (· ∉ fence))
    (hend : mark.getLast?.any (· ∉ fence)) (hforeign : fence.any (· ∉ mark)) :
    IsFence mark fence := by
  obtain ⟨first, hhead, hfirst⟩ := (Option.any_eq_true _ _).1 hhead
  obtain ⟨last, hend, hlast⟩ := (Option.any_eq_true _ _).1 hend
  obtain ⟨other, hmem, hother⟩ := List.any_eq_true.1 hforeign
  rw [decide_eq_true_eq] at hfirst hlast hother
  constructor
  · exact fun h => hfirst (h.subset (List.mem_of_mem_head? hhead))
  · exact fun h => hother (h.subset hmem)
  · rintro back hback hne hstart
    obtain ⟨front, rfl⟩ := (List.mem_tails _ _).1 hback
    rw [List.getLast?_append_of_ne_nil _ hne] at hend
    exact hlast (hstart.subset (List.mem_of_mem_getLast? hend))
  · rintro front hfront hne hsuffix
    obtain ⟨back, rfl⟩ := (List.mem_inits _ _).1 hfront
    rw [List.head?_append_of_ne_nil _ hne] at hhead
    exact hfirst (hsuffix.subset (List.mem_of_mem_head? hhead))

/-- Most cases are decided without a search. -/
instance (mark fence : List Char) : Decidable (IsFence mark fence) :=
  if h : mark.head?.any (· ∉ fence) ∧ mark.getLast?.any (· ∉ fence) ∧ fence.any (· ∉ mark) then
    isTrue (.of_ends h.1 h.2.1 h.2.2)
  else decidable_of_iff
    ((¬ mark <:+: fence ∧ ¬ fence <:+: mark) ∧
      (∀ back ∈ mark.tails, back ≠ [] → ¬ back <+: fence) ∧
      ∀ front ∈ mark.inits, front ≠ [] → ¬ front <:+ fence)
    ⟨fun ⟨⟨inside, across⟩, into, outOf⟩ => ⟨inside, across, into, outOf⟩,
      fun ⟨inside, across, into, outOf⟩ => ⟨⟨inside, across⟩, into, outOf⟩⟩

/-- A mark that reaches a fence from the left stands before it. -/
theorem IsFence.infix_append_iff (h : IsFence mark fence) {front : List Char} :
    mark <:+: front ++ fence ↔ mark <:+: front := by
  refine ⟨fun hmark => ?_, List.infix_append_of_infix_left⟩
  rcases List.infix_append_iff_ne_nil.1 hmark with hmark | hmark | ⟨a, b, -, hb, rfl, -, hfence⟩
  · exact hmark
  · exact absurd hmark h.notInside
  · exact absurd hfence (h.notInto b ((List.mem_tails _ _).2 (List.suffix_append a b)) hb)

/-- Texts on the two sides of a fence hold the mark only if one of them does. -/
theorem IsFence.infix_append_append_iff (h : IsFence mark fence) {front back : List Char} :
    mark <:+: front ++ fence ++ back ↔ mark <:+: front ∨ mark <:+: back := by
  constructor
  · intro hmark
    rcases List.infix_append_iff_ne_nil.1 hmark with hmark | hmark | ⟨a, b, ha, -, rfl, hfence, -⟩
    · exact .inl (h.infix_append_iff.1 hmark)
    · exact .inr hmark
    · -- The mark begins in or before the fence, and ends after it.
      have hstart : a ∈ (a ++ b).inits := (List.mem_inits _ _).2 (List.prefix_append a b)
      rcases List.suffix_or_suffix_of_suffix hfence (List.suffix_append front fence) with hin | hout
      · exact absurd hin (h.notOutOf a hstart ha)
      · exact absurd (List.infix_append_of_infix_left hout.isInfix) h.notAcross
  · rintro (hmark | hmark)
    · exact List.infix_append_of_infix_left (List.infix_append_of_infix_left hmark)
    · exact List.infix_append_of_infix_right hmark

/-! ## Replacing characters -/

/-- Replacing characters by fences does not make up the mark. -/
theorem infix_of_infix_append_flatMap {replace : Char → List Char}
    (h : ∀ c, replace c = [c] ∨ IsFence mark (replace c)) {front cs : List Char}
    (hmark : mark <:+: front ++ cs.flatMap replace) : mark <:+: front ++ cs := by
  induction cs generalizing front with
  | nil => exact hmark
  | cons c cs ih =>
    rw [List.flatMap_cons, ← List.append_assoc] at hmark
    rcases h c with hc | hc
    · rw [hc] at hmark
      have hkept := ih hmark
      rwa [List.append_assoc] at hkept
    · rcases hc.infix_append_append_iff.1 hmark with hfront | hback
      · exact List.infix_append_of_infix_left hfront
      · have hrest : mark <:+: [] ++ cs := ih hback
        exact List.infix_append_of_infix_right (List.infix_cons hrest)

/-- Replacing characters by fences, and none of the mark's, keeps the mark where it is and makes up
no other. -/
theorem infix_flatMap_iff {replace : Char → List Char}
    (h : ∀ c, replace c = [c] ∨ IsFence mark (replace c)) (hkept : ∀ c ∈ mark, replace c = [c])
    {cs : List Char} : mark <:+: cs.flatMap replace ↔ mark <:+: cs := by
  refine ⟨fun hmark => ?_, ?_⟩
  · have hfront : mark <:+: [] ++ cs.flatMap replace := hmark
    exact infix_of_infix_append_flatMap h hfront
  · rintro ⟨front, back, rfl⟩
    have hsame : mark.flatMap replace = mark := by
      rw [List.flatMap_congr hkept, List.flatMap_singleton']
    rw [List.flatMap_append, List.flatMap_append, hsame]
    exact List.infix_append _ _ _

end PayloadModels.Text
