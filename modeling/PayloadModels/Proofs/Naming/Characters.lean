import PayloadModels.Proofs.Naming.Casing
import PayloadModels.Unicode.Basic

/-!
# The characters of names

Whatever the payload key, a name made from it has of ASCII only letters, digits and underscores, and
no blanks (`isNameText_snake`). Words are made of letters and numbers, and changing the case of a
character never leads to another kind of ASCII character or to a blank: the mappings are tables, so
that is checked entry by entry (`keepsNames_lowerRuns`).
-/

namespace PayloadModels

open Unicode

namespace Naming

/-- A character that a name may have: no blank, and of ASCII a letter, a digit or an underscore. -/
def IsNameChar (c : Char) : Prop :=
  (c.toNat < 0x80 → c.isAlphanum ∨ c = '_') ∧ isBlank c = false

instance (c : Char) : Decidable (IsNameChar c) := inferInstanceAs (Decidable (_ ∧ _))

/-- What is checked of every ASCII code point holds of every ASCII character. -/
theorem ascii_forall {p : Char → Prop} (h : ∀ n < 0x80, p (Char.ofNat n)) {c : Char}
    (hc : c.toNat < 0x80) : p c := by
  rw [← Char.ofNat_toNat c]
  exact h c.toNat hc

/-- A code point of a set lies in one of its ranges. -/
theorem exists_of_contains {ranges : Ranges} {n : Nat} (h : ranges.contains n) :
    ∃ range ∈ ranges, range.1 ≤ n ∧ n ≤ range.2 := by
  induction ranges with
  | nil => cases h
  | cons range ranges ih =>
    rw [Ranges.contains] at h
    split at h
    · cases h
    · next hfirst =>
      rcases Bool.or_eq_true_iff.1 h with hlast | hrest
      · exact ⟨range, List.mem_cons_self, by omega, of_decide_eq_true hlast⟩
      · obtain ⟨other, hother, hn⟩ := ih hrest
        exact ⟨other, List.mem_cons_of_mem _ hother, hn⟩

/-- What is checked of every blank code point holds of every blank. -/
theorem blank_forall {p : Char → Prop}
    (h : ∀ range ∈ blankRanges, ∀ k < range.2 + 1 - range.1, p (Char.ofNat (range.1 + k)))
    {c : Char} (hc : isBlank c) : p c := by
  obtain ⟨range, hrange, hfirst, hlast⟩ := exists_of_contains hc
  have hp := h range hrange (c.toNat - range.1) (by omega)
  rwa [Nat.add_sub_cancel' hfirst, Char.ofNat_toNat] at hp

/-- What words are made of may stand in names. -/
theorem isNameChar_of_isWordChar {c : Char} (h : isWordChar c) : IsNameChar c := by
  refine ⟨fun hc => ?_, ?_⟩
  · exact ascii_forall (p := fun c => isWordChar c → c.isAlphanum ∨ c = '_') (by decide)
      hc h
  · refine Bool.eq_false_iff.2 fun hblank => ?_
    exact blank_forall (p := fun c => ¬ isWordChar c) (by decide +kernel) hblank h

/-- ASCII letters, digits and underscores may stand in names. -/
theorem isNameChar_of_isAlphanum {c : Char} (h : c.isAlphanum ∨ c = '_') : IsNameChar c := by
  refine ⟨fun _ => h, Bool.eq_false_iff.2 fun hblank => ?_⟩
  exact blank_forall (p := fun c => ¬ (c.isAlphanum ∨ c = '_')) (by decide) hblank h

/-- A colon is in no name. -/
theorem not_isNameChar_colon : ¬ IsNameChar ':' := by decide

end Naming

/-! ## Changing case -/

namespace Unicode

open Naming

/-- A valid code point is that of its character. -/
theorem toNat_ofNat {n : Nat} (h : n.isValidChar) : (Char.ofNat n).toNat = n := by
  rw [Char.ofNat, dif_pos h]
  rfl

/-- Over ASCII a mapping does what its first run does, if the rest of it is not about ASCII. -/
theorem mapCase_ascii {first : CaseRun} {others : List CaseRun}
    {expansions : List (Nat × List Nat)} (hothers : ∀ run ∈ others, 0x80 ≤ run.first)
    (hexpansions : ∀ entry ∈ expansions, 0x80 ≤ entry.1) {c : Char} (hc : c.toNat < 0x80) :
    mapCase (first :: others) expansions c = mapCase [first] [] c := by
  have hlookup : expansions.lookup c.toNat = none := by
    refine List.lookup_eq_none_iff.2 fun entry hentry => bne_iff_ne.2 ?_
    exact Nat.ne_of_lt (Nat.lt_of_lt_of_le hc (hexpansions entry hentry))
  have hnone : others.findSome? (·.image? c.toNat) = none := by
    refine List.findSome?_eq_none_iff.2 fun run hrun => if_neg fun hin => ?_
    exact absurd (Nat.lt_of_le_of_lt hin.1 hc) (Nat.not_lt.2 (hothers run hrun))
  rw [mapCase, hlookup, mapCase, List.lookup_nil, List.findSome?_cons, List.findSome?_cons, hnone,
    List.findSome?_nil]

/-- Over ASCII, the full lower-case mapping is the simple one. -/
theorem lower_ascii {c : Char} (hc : c.toNat < 0x80) : lower c = [c.toLower] := by
  have hruns : lowerRuns = ⟨0x41, 0x5a, 1, 32⟩ :: lowerRuns.tail := rfl
  rw [lower, hruns, mapCase_ascii (by decide +kernel) (by decide) hc]
  exact ascii_forall (p := fun c => mapCase [⟨0x41, 0x5a, 1, 32⟩] [] c = [c.toLower])
    (by decide) hc

/-- Over ASCII, the full upper-case mapping is the simple one. -/
theorem upper_ascii {c : Char} (hc : c.toNat < 0x80) : upper c = [c.toUpper] := by
  have hruns : upperRuns = ⟨0x61, 0x7a, 1, -32⟩ :: upperRuns.tail := rfl
  rw [upper, hruns, mapCase_ascii (by decide +kernel) (by decide) hc]
  exact ascii_forall (p := fun c => mapCase [⟨0x61, 0x7a, 1, -32⟩] [] c = [c.toUpper])
    (by decide) hc

/-- A code point may stand in names if it is no blank and, in ASCII, a letter. -/
theorem isNameChar_ofNat {n : Nat} (h : n.isValidChar)
    (hascii : n < 0x80 → 0x41 ≤ n ∧ n ≤ 0x5a ∨ 0x61 ≤ n ∧ n ≤ 0x7a)
    (hblank : ∀ range ∈ blankRanges, n < range.1 ∨ range.2 < n) : IsNameChar (Char.ofNat n) := by
  refine ⟨fun hn => ?_, ?_⟩
  · rw [toNat_ofNat h] at hn
    have hletter : ∀ n < 0x80, 0x41 ≤ n ∧ n ≤ 0x5a ∨ 0x61 ≤ n ∧ n ≤ 0x7a →
        (Char.ofNat n).isAlphanum := by decide
    exact .inl (hletter n hn (hascii hn))
  · rw [isBlank, toNat_ofNat h]
    refine Bool.eq_false_iff.2 fun hcontains => ?_
    obtain ⟨range, hrange, hfirst, hlast⟩ := exists_of_contains hcontains
    have hapart := hblank range hrange
    omega

/-- The run leads to ASCII letters or past ASCII, and to no blanks. -/
def CaseRun.KeepsNames (run : CaseRun) : Prop :=
  (0x41 ≤ run.first + run.shift ∧ run.last + run.shift ≤ 0x5a ∨
    0x61 ≤ run.first + run.shift ∧ run.last + run.shift ≤ 0x7a ∨
    0x80 ≤ run.first + run.shift ∧ run.last + run.shift < 0xd800 ∨
    0xdfff < run.first + run.shift ∧ run.last + run.shift < 0x110000) ∧
  ∀ range ∈ blankRanges, run.last + run.shift < range.1 ∨ range.2 < run.first + run.shift

instance (run : CaseRun) : Decidable run.KeepsNames := inferInstanceAs (Decidable (_ ∧ _))

/-- Every run of the lower-case mapping leads to characters of names. -/
theorem keepsNames_lowerRuns : ∀ run ∈ lowerRuns, run.KeepsNames := by decide +kernel

/-- Every run of the upper-case mapping leads to characters of names. -/
theorem keepsNames_upperRuns : ∀ run ∈ upperRuns, run.KeepsNames := by decide +kernel

/-- The run leads to code points of characters. -/
theorem CaseRun.KeepsNames.isValidChar {run : CaseRun} (h : run.KeepsNames) {m n : Nat}
    (himage : run.image? m = some n) : n.isValidChar := by
  rw [image?] at himage
  split at himage
  · next hm =>
    cases himage
    rcases h.1 with h | h | h | h
    · exact .inl (by omega)
    · exact .inl (by omega)
    · exact .inl (by omega)
    · exact .inr (by omega)
  · cases himage

/-- What a run maps to may stand in names if the run leads to such characters. -/
theorem CaseRun.KeepsNames.isNameChar {run : CaseRun} (h : run.KeepsNames) {m n : Nat}
    (himage : run.image? m = some n) : IsNameChar (Char.ofNat n) := by
  have hvalid := h.isValidChar himage
  rw [image?] at himage
  split at himage
  · next hm =>
    cases himage
    obtain ⟨hletters, hblanks⟩ := h
    refine isNameChar_ofNat hvalid (by omega) fun range hrange => ?_
    have hapart := hblanks range hrange
    omega
  · cases himage

/-- Changing the case of a name's character gives characters of a name. -/
theorem isNameChar_of_mem_mapCase {runs : List CaseRun} {expansions : List (Nat × List Nat)}
    (hruns : ∀ run ∈ runs, run.KeepsNames)
    (hexpansions : ∀ entry ∈ expansions, ∀ n ∈ entry.2, IsNameChar (Char.ofNat n)) {c d : Char}
    (hc : IsNameChar c) (hd : d ∈ mapCase runs expansions c) : IsNameChar d := by
  rw [mapCase] at hd
  split at hd
  · next ns hlookup =>
    obtain ⟨front, back, rfl, -⟩ := List.lookup_eq_some_iff.1 hlookup
    obtain ⟨n, hn, rfl⟩ := List.mem_map.1 hd
    exact hexpansions (c.toNat, ns) (by simp) n hn
  · split at hd
    · next n hfound =>
      obtain ⟨run, hrun, himage⟩ := List.exists_of_findSome?_eq_some hfound
      rw [List.mem_singleton.1 hd]
      exact (hruns run hrun).isNameChar himage
    · rw [List.mem_singleton.1 hd]
      exact hc

/-- Lower-casing leads from characters of names to such. -/
theorem isNameChar_of_mem_lower {c d : Char} (hc : IsNameChar c) (hd : d ∈ lower c) :
    IsNameChar d :=
  isNameChar_of_mem_mapCase keepsNames_lowerRuns (by decide) hc hd

/-- Upper-casing leads from characters of names to such. -/
theorem isNameChar_of_mem_upper {c d : Char} (hc : IsNameChar c) (hd : d ∈ upper c) :
    IsNameChar d :=
  isNameChar_of_mem_mapCase keepsNames_upperRuns (by decide) hc hd

end Unicode

/-! ## Names -/

namespace Naming

/-- The text has no character that a name may not have. -/
def IsNameText (text : String) : Prop := ∀ c ∈ text.toList, IsNameChar c

instance (text : String) : Decidable (IsNameText text) :=
  List.decidableBAll IsNameChar text.toList

/-- Two texts that can be part of a name are one when they are joined. -/
theorem IsNameText.append {a b : String} (ha : IsNameText a) (hb : IsNameText b) :
    IsNameText (a ++ b) := MadeOf.append ha hb

/-- Changing the case of a name's characters gives characters of names. -/
theorem keptByCasing_isNameChar : KeptByCasing IsNameChar where
  lower := isNameChar_of_mem_lower
  upper := isNameChar_of_mem_upper
  sigma _ := by
    -- A capital sigma becomes one of two small ones, neither in ASCII.
    rw [lowerSigma]
    split <;> decide
  filling := by decide

/-- A name in snake case is made of characters of names. -/
theorem isNameText_snake (key : String) : IsNameText (snake key) :=
  keptByCasing_isNameChar.snake fun _ _ => isNameChar_of_isWordChar

/-- A name in upper camel case is made of characters of names. -/
theorem isNameText_upperCamel (key : String) : IsNameText (upperCamel key) :=
  keptByCasing_isNameChar.upperCamel fun _ _ => isNameChar_of_isWordChar

/-- A name in lower camel case is made of characters of names. -/
theorem isNameText_lowerCamel (key : String) : IsNameText (lowerCamel key) :=
  keptByCasing_isNameChar.lowerCamel fun _ _ => isNameChar_of_isWordChar

/-!
## Names of ASCII keys

Each casing makes an identifier of a key over ASCII (`isIdentifier_snake`), whatever separators,
digits and capitals the key has and even when it has nothing else. Casing leads from ASCII to ASCII
only, a name has of ASCII only what identifiers may have, and it never begins with a digit.
-/

/-- A character of ASCII. -/
def IsAscii (c : Char) : Prop := c.toNat < 0x80

instance (c : Char) : Decidable (IsAscii c) := inferInstanceAs (Decidable (_ < _))

/-- Changing case does not lead out of ASCII. -/
theorem keptByCasing_isAscii : KeptByCasing IsAscii where
  lower hc hd := by
    rw [lower_ascii hc, List.mem_singleton] at hd
    exact hd ▸ ascii_forall (p := fun c => IsAscii c.toLower) (by decide) hc
  upper hc hd := by
    rw [upper_ascii hc, List.mem_singleton] at hd
    exact hd ▸ ascii_forall (p := fun c => IsAscii c.toUpper) (by decide) hc
  sigma h := absurd h (by decide)
  filling := by decide

/-- Whether a name is an ASCII letter or an underscore, and then ASCII letters, digits and
underscores. -/
def isIdentifier (name : String) : Bool :=
  match name.toList with
  | [] => false
  | c :: cs => (c.isAlpha || c = '_') && cs.all fun c => c.isAlphanum || c = '_'

/-- An identifier stays one when letters, digits and underscores are put behind it. -/
theorem isIdentifier_append {name suffix : String} (h : isIdentifier name)
    (hsuffix : suffix.toList.all fun c => c.isAlphanum || c = '_') :
    isIdentifier (name ++ suffix) := by
  unfold isIdentifier at h ⊢
  split at h
  · cases h
  · next c cs hname =>
    rw [Bool.and_eq_true] at h
    simp only [String.toList_append, hname, List.cons_append, List.all_append, Bool.and_eq_true]
    exact ⟨h.1, h.2, hsuffix⟩

/-- What was made fit to be an identifier is one if it keeps to ASCII. -/
theorem isIdentifier_identifier {name : String} (hname : IsNameText (identifier name))
    (hascii : MadeOf IsAscii (identifier name)) : isIdentifier (identifier name) := by
  obtain ⟨c, cs, hcs, hdigit⟩ := exists_identifier_eq name
  have hall : ∀ d ∈ c :: cs, d.isAlphanum ∨ d = '_' := by
    rw [← hcs]
    exact fun d hd => (hname d hd).1 (hascii d hd)
  obtain ⟨hfirst, hrest⟩ := List.forall_mem_cons.1 hall
  simp only [isIdentifier, hcs, Bool.and_eq_true, List.all_eq_true, Bool.or_eq_true,
    decide_eq_true_eq]
  refine ⟨hfirst.imp_left fun hc => ?_, hrest⟩
  simpa [Char.isAlphanum, hdigit] using hc

section
variable {key : String} (h : MadeOf IsAscii key)
include h

/-- A key over ASCII is an identifier in snake case. -/
theorem isIdentifier_snake : isIdentifier (snake key) :=
  isIdentifier_identifier (isNameText_snake key)
    (keptByCasing_isAscii.snake fun c hc _ => h c hc)

/-- A key over ASCII is an identifier in lower camel case. -/
theorem isIdentifier_lowerCamel : isIdentifier (lowerCamel key) := by
  obtain ⟨name, heq⟩ := exists_lowerCamel_eq key
  have hname := isNameText_lowerCamel key
  have hascii := keptByCasing_isAscii.lowerCamel fun c hc _ => h c hc
  rw [heq] at hname hascii ⊢
  exact isIdentifier_identifier hname hascii

end

end Naming

end PayloadModels
