import PayloadModels.Proofs.Naming.Characters

/-!
# The letters of a name

The words of a key hold all its letters, and joining words in another case turns each ASCII letter
into one. So a name has at least the ASCII letters of the key that it is made from
(`letters_le_letters_lowerCamel`).
-/

namespace PayloadModels.Naming

open Unicode

/-- The number of ASCII letters of a text. -/
def letters (text : String) : Nat := text.toList.countP Char.isAlpha

/-- Letters of texts that are joined add up. -/
theorem letters_append (a b : String) : letters (a ++ b) = letters a + letters b := by
  rw [letters, String.toList_append, List.countP_append, letters, letters]

/-- The letters that are counted are those of ASCII. -/
theorem toNat_lt_of_isAlpha {c : Char} (h : c.isAlpha) : c.toNat < 0x80 := by
  rcases Bool.or_eq_true_iff.1 h with hupper | hlower
  · have hlast : c.val ≤ 'Z'.val := (of_decide_eq_true hupper).2
    exact Nat.lt_of_le_of_lt (UInt32.le_iff_toNat_le.1 hlast) (by decide)
  · have hlast : c.val ≤ 'z'.val := of_decide_eq_true (Bool.and_eq_true_iff.1 hlower).2
    exact Nat.lt_of_le_of_lt (UInt32.le_iff_toNat_le.1 hlast) (by decide)

/-- Words hold the letters that are counted. -/
theorem isWordChar_of_isAlpha {c : Char} (h : c.isAlpha) : isWordChar c :=
  ascii_forall (p := fun c => c.isAlpha → isWordChar c) (by decide)
    (toNat_lt_of_isAlpha h) h

/-- The words of a key have its letters. -/
theorem letters_join_words (key : String) : letters (String.join (words key)) = letters key := by
  rw [letters, String.toList_join, flatten_words, List.countP_filter, letters]
  refine List.countP_congr fun c _ => ?_
  rw [Bool.and_eq_true]
  exact and_iff_left_of_imp isWordChar_of_isAlpha

/-- What is found in a list is counted there. -/
theorem one_le_countP {p : Char → Bool} {cs : List Char} (h : cs.any p) : 1 ≤ cs.countP p := by
  rw [Nat.one_le_iff_ne_zero, ← Nat.pos_iff_ne_zero, List.countP_pos_iff]
  exact List.any_eq_true.1 h

/-- A letter has a letter among the characters of its other case. -/
theorem any_isAlpha_lower {c : Char} (h : c.isAlpha) : (lower c).any Char.isAlpha := by
  have hc := toNat_lt_of_isAlpha h
  rw [lower_ascii hc, List.any_cons, Bool.or_eq_true]
  exact .inl (ascii_forall (p := fun c => c.isAlpha → c.toLower.isAlpha) (by decide) hc h)

/-- The capital of an ASCII letter has an ASCII letter. -/
theorem any_isAlpha_upper {c : Char} (h : c.isAlpha) : (upper c).any Char.isAlpha := by
  have hc := toNat_lt_of_isAlpha h
  rw [upper_ascii hc, List.any_cons, Bool.or_eq_true]
  exact .inl (ascii_forall (p := fun c => c.isAlpha → c.toUpper.isAlpha) (by decide) hc h)

/-- Lower-casing a text inside another one loses no letters. -/
theorem countP_le_lowercaseAfter (before cs : List Char) :
    cs.countP Char.isAlpha ≤ (lowercaseAfter before cs).countP Char.isAlpha := by
  induction cs generalizing before with
  | nil => exact Nat.le_refl 0
  | cons c cs ih =>
    have hrest := ih (c :: before)
    rw [lowercaseAfter, List.countP_append, List.countP_cons]
    by_cases hc : c.isAlpha
    · have hsigma : c ≠ 'Σ' := fun heq => absurd (heq ▸ hc) (by decide)
      have hlower := one_le_countP (any_isAlpha_lower hc)
      rw [if_neg hsigma, if_pos hc]
      omega
    · rw [if_neg hc]
      omega

/-- Lower-casing loses no letters. -/
theorem letters_le_letters_lowercase (text : String) :
    letters text ≤ letters (lowercase text) := by
  rw [letters, letters, lowercase, String.toList_ofList]
  exact countP_le_lowercaseAfter [] text.toList

/-- Capitalizing loses no letters. -/
theorem letters_le_letters_capitalize (word : String) :
    letters word ≤ letters (capitalize word) := by
  rw [letters, letters, capitalize]
  split
  · next hempty => rw [hempty]; exact Nat.zero_le _
  · next c cs hword =>
    rw [hword, String.toList_ofList, List.countP_append, List.countP_cons]
    by_cases hc : c.isAlpha
    · have hupper := one_le_countP (any_isAlpha_upper hc)
      rw [if_pos hc]
      omega
    · rw [if_neg hc]
      omega

/-- Making a name fit to be an identifier loses no letters. -/
theorem letters_le_letters_identifier (name : String) :
    letters name ≤ letters (identifier name) := by
  rw [identifier]
  split
  · next hempty => rw [letters, hempty]; exact Nat.zero_le _
  · split
    · rw [letters_append]
      exact Nat.le_add_left _ _
    · exact Nat.le_refl _

/-- Capitalizing words before they are joined loses no letters. -/
theorem letters_join_le_letters_joinCapitalized (ws : List String) :
    letters (String.join ws) ≤ letters (joinCapitalized ws) := by
  induction ws with
  | nil => exact Nat.le_refl _
  | cons word ws ih =>
    rw [joinCapitalized, List.map_cons, String.join_cons, String.join_cons, letters_append,
      letters_append, ← joinCapitalized]
    exact Nat.add_le_add (letters_le_letters_capitalize word) ih

/-- A name in lower camel case has at least the letters of its key. -/
theorem letters_le_letters_lowerCamel (key : String) :
    letters key ≤ letters (lowerCamel key) := by
  have hwords := letters_join_words key
  rw [lowerCamel]
  split
  · next hnone =>
    rw [hnone] at hwords
    rw [← hwords]
    exact Nat.zero_le _
  · next first others hsome =>
    rw [hsome, String.join_cons, letters_append] at hwords
    calc letters key = letters first + letters (String.join others) := hwords.symm
      _ ≤ letters (lowercase first) + letters (joinCapitalized others) :=
        Nat.add_le_add (letters_le_letters_lowercase first)
          (letters_join_le_letters_joinCapitalized others)
      _ = letters (lowercase first ++ joinCapitalized others) := (letters_append _ _).symm
      _ ≤ letters (identifier (lowercase first ++ joinCapitalized others)) :=
        letters_le_letters_identifier _

end PayloadModels.Naming
