import PayloadModels.Proofs.Naming.Characters

/-!
# How names in upper camel case begin

A name in upper camel case begins with no small ASCII letter, whatever its key is, unless it is the
`value` that stands for a key without words (`eq_value_of_beginsSmall_upperCamel`). The capital form
of a character, which may be several characters or the character itself, never begins with one: the
mapping is a table, so that is checked entry by entry.
-/

namespace PayloadModels

namespace Unicode

open Naming

/-- The small ASCII letters lie between two code points. -/
theorem bounds_of_isLower {c : Char} (h : c.isLower) : 0x61 ≤ c.toNat ∧ c.toNat ≤ 0x7a := by
  have hbounds := Bool.and_eq_true_iff.1 h
  exact ⟨UInt32.le_iff_toNat_le.1 (of_decide_eq_true hbounds.1),
    UInt32.le_iff_toNat_le.1 (of_decide_eq_true hbounds.2)⟩

/-- A code point that is not that of a small ASCII letter gives none, valid or not. -/
theorem isLower_ofNat {n : Nat} (h : n < 0x61 ∨ 0x7a < n) : (Char.ofNat n).isLower = false := by
  refine Bool.eq_false_iff.2 fun hlower => ?_
  have hbounds := bounds_of_isLower hlower
  by_cases hn : n.isValidChar
  · rw [toNat_ofNat hn] at hbounds
    omega
  · rw [Char.ofNat, dif_neg hn] at hbounds
    exact absurd hbounds.1 (by decide)

/-- The run leads to no small ASCII letters. -/
def CaseRun.LeavesSmall (run : CaseRun) : Prop :=
  run.last + run.shift < 0x61 ∨ 0x7a < run.first + run.shift

instance (run : CaseRun) : Decidable run.LeavesSmall := inferInstanceAs (Decidable (_ ∨ _))

/-- No capital is a small ASCII letter. -/
theorem leavesSmall_upperRuns : ∀ run ∈ upperRuns, run.LeavesSmall := by decide +kernel

/-- What a run maps to is no small ASCII letter if the run leads to none. -/
theorem CaseRun.LeavesSmall.isLower {run : CaseRun} (h : run.LeavesSmall) {m n : Nat}
    (himage : run.image? m = some n) : (Char.ofNat n).isLower = false := by
  rw [image?] at himage
  split at himage
  · cases himage
    rcases h with h | h
    · exact isLower_ofNat (.inl (by omega))
    · exact isLower_ofNat (.inr (by omega))
  · cases himage

/-- The capital form of a character begins with a character that is no small ASCII letter. -/
theorem exists_upper_eq (c : Char) : ∃ d ds, upper c = d :: ds ∧ d.isLower = false := by
  rw [upper, mapCase]
  split
  · next ns hlookup =>
    obtain ⟨front, back, hentry, -⟩ := List.lookup_eq_some_iff.1 hlookup
    have hentries : ∀ entry ∈ upperExpansions,
        entry.2.head?.any fun n => !(Char.ofNat n).isLower := by decide
    have hhead := hentries (c.toNat, ns) (by simp [hentry])
    cases ns with
    | nil => cases hhead
    | cons n ns => exact ⟨Char.ofNat n, ns.map Char.ofNat, rfl, by simpa using hhead⟩
  · split
    · next n hfound =>
      obtain ⟨run, hrun, himage⟩ := List.exists_of_findSome?_eq_some hfound
      exact ⟨Char.ofNat n, [], rfl, (leavesSmall_upperRuns run hrun).isLower himage⟩
    · next hnone =>
      refine ⟨c, [], rfl, Bool.eq_false_iff.2 fun hlower => ?_⟩
      -- The first run has all small ASCII letters.
      have hrun := List.findSome?_eq_none_iff.1 hnone ⟨0x61, 0x7a, 1, -32⟩ List.mem_cons_self
      rw [CaseRun.image?, if_pos ⟨(bounds_of_isLower hlower).1, (bounds_of_isLower hlower).2,
        Nat.mod_one _⟩] at hrun
      cases hrun

end Unicode

namespace Naming

open Unicode

/-- Whether a text begins with a small ASCII letter. -/
def beginsSmall (text : String) : Bool := text.toList.head?.any Char.isLower

/-- Texts that do not begin small do not when they are joined. -/
theorem beginsSmall_append {a b : String} (ha : beginsSmall a = false)
    (hb : beginsSmall b = false) : beginsSmall (a ++ b) = false := by
  rw [beginsSmall, String.toList_append]
  cases h : a.toList with
  | nil => exact hb
  | cons c cs =>
    rw [beginsSmall, h] at ha
    exact ha

/-- A capitalized word does not begin small. -/
theorem beginsSmall_capitalize (word : String) : beginsSmall (capitalize word) = false := by
  rw [capitalize]
  split
  · rfl
  · next c cs _ =>
    obtain ⟨d, ds, hupper, hd⟩ := exists_upper_eq c
    rw [beginsSmall, String.toList_ofList, hupper]
    exact hd

/-- Capitalized words do not begin small when they are joined. -/
theorem beginsSmall_joinCapitalized (ws : List String) :
    beginsSmall (joinCapitalized ws) = false := by
  induction ws with
  | nil => rfl
  | cons word ws ih =>
    rw [joinCapitalized, List.map_cons, String.join_cons, ← joinCapitalized]
    exact beginsSmall_append (beginsSmall_capitalize word) ih

/-- A name in upper camel case that begins with a small ASCII letter is that of a key without
words. -/
theorem eq_value_of_beginsSmall_upperCamel {key : String} (h : beginsSmall (upperCamel key)) :
    upperCamel key = "value" := by
  have hjoined := beginsSmall_joinCapitalized (words key)
  rw [upperCamel, identifier] at h ⊢
  split at h
  · rfl
  · split at h
    · rw [beginsSmall, String.toList_append] at h
      cases h
    · rw [hjoined] at h
      cases h

end Naming

end PayloadModels
