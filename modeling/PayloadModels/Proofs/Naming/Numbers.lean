import PayloadModels.Proofs.Naming.Splitting

/-!
# Numbers at the beginning of names

A name never begins with an ASCII digit, since an underscore goes before it. Words may also be made
of other numbers, those of other scripts among them, and no underscore goes before these: a name
begins with a number when the first word character of its key is a number that is no ASCII digit
(`isNumeric_first_iff`). The first character of a name is that of the key in another case, and
changing case neither makes a number nor unmakes one. The mappings are tables, so that is checked
run by run (`keeps_lowerRuns`).
-/

namespace PayloadModels

namespace Unicode

/-! ## Ranges of code points -/

/-- Whether some code point from `first` to `last` may lie in one of the ranges. -/
def Ranges.meets (first last : Nat) : Ranges → Bool
  | [] => false
  | (low, high) :: rest =>
    if last < low then false else first ≤ high || Ranges.meets first last rest

/-- Whether the code points from `first` to `last` all lie in one of the ranges. -/
def Ranges.covers (first last : Nat) : Ranges → Bool
  | [] => false
  | (low, high) :: rest =>
    if first < low then false else last ≤ high || Ranges.covers first last rest

section
variable {ranges : Ranges} {first last n : Nat} (hfirst : first ≤ n) (hlast : n ≤ last)
include hfirst hlast

/-- A code point between two others is in no range if none of them is. -/
theorem contains_of_not_meets (h : ranges.meets first last = false) :
    ranges.contains n = false := by
  induction ranges with
  | nil => rfl
  | cons range ranges ih =>
    rw [Ranges.meets] at h
    rw [Ranges.contains]
    split at h
    · rw [if_pos (by omega)]
    · obtain ⟨hhigh, hrest⟩ := Bool.or_eq_false_iff.1 h
      have hapart : ¬ first ≤ range.2 := of_decide_eq_false hhigh
      split
      · rfl
      · rw [ih hrest, Bool.or_false, decide_eq_false (by omega)]

/-- A code point between two others is in a range if all of them are. -/
theorem contains_of_covers (h : ranges.covers first last) : ranges.contains n := by
  induction ranges with
  | nil => cases h
  | cons range ranges ih =>
    rw [Ranges.covers] at h
    rw [Ranges.contains]
    split at h
    · cases h
    · rw [if_neg (by omega), Bool.or_eq_true]
      refine (Bool.or_eq_true_iff.1 h).imp (fun hhigh => ?_) ih
      have hinside : last ≤ range.2 := of_decide_eq_true hhigh
      exact decide_eq_true (by omega)

end

/-- The run maps code points outside the ranges, or code points inside, to such. -/
def CaseRun.Keeps (ranges : Ranges) (run : CaseRun) : Prop :=
  ranges.meets run.first run.last = false ∧
      ranges.meets (run.first + run.shift).toNat (run.last + run.shift).toNat = false ∨
    ranges.covers run.first run.last ∧
      ranges.covers (run.first + run.shift).toNat (run.last + run.shift).toNat

instance (ranges : Ranges) (run : CaseRun) : Decidable (run.Keeps ranges) :=
  inferInstanceAs (Decidable (_ ∨ _))

/-- A run that keeps ranges maps inside them what is inside, and nothing else. -/
theorem CaseRun.Keeps.contains_eq {ranges : Ranges} {run : CaseRun} (h : run.Keeps ranges)
    {m n : Nat} (himage : run.image? m = some n) : ranges.contains n = ranges.contains m := by
  rw [image?] at himage
  split at himage
  · next hm =>
    cases himage
    obtain ⟨hfirst, hlast, -⟩ := hm
    rcases h with ⟨hfrom, hto⟩ | ⟨hfrom, hto⟩
    · rw [contains_of_not_meets hfirst hlast hfrom,
        contains_of_not_meets (by omega) (by omega) hto]
    · rw [contains_of_covers hfirst hlast hfrom, contains_of_covers (by omega) (by omega) hto]
  · cases himage

/-! ## Numbers and case -/

/-- A number that is no ASCII digit. -/
def isOtherNumber (c : Char) : Bool := isNumeric c && !c.isDigit

/-- The ASCII digits lie between two code points. -/
theorem isDigit_iff (c : Char) : c.isDigit ↔ 0x30 ≤ c.toNat ∧ c.toNat ≤ 0x39 := by
  rw [Char.isDigit, Bool.and_eq_true, decide_eq_true_eq, decide_eq_true_eq, ge_iff_le,
    UInt32.le_iff_toNat_le, UInt32.le_iff_toNat_le]
  rfl

/-- The numbers that are no ASCII digits are those of all ranges but the first. -/
theorem isOtherNumber_eq (c : Char) :
    isOtherNumber c = Ranges.contains numericRanges.tail c.toNat := by
  have hranges : numericRanges = (0x30, 0x39) :: numericRanges.tail := rfl
  rw [isOtherNumber, isNumeric, hranges, Ranges.contains, List.tail_cons]
  by_cases hlast : c.toNat ≤ 0x39
  · have htail : Ranges.contains numericRanges.tail c.toNat = false :=
      contains_of_not_meets (Nat.zero_le _) hlast (by decide)
    rw [htail, Bool.or_false]
    split
    · rfl
    · have hdigit : c.isDigit := (isDigit_iff c).2 (by omega)
      rw [hdigit, Bool.not_true, Bool.and_false]
  · have hdigit : c.isDigit = false :=
      Bool.eq_false_iff.2 fun hdigit => hlast ((isDigit_iff c).1 hdigit).2
    rw [if_neg (by omega), decide_eq_false hlast, hdigit, Bool.false_or, Bool.not_false,
      Bool.and_true]

/-- Every run of the lower-case mapping keeps the numbers past ASCII. -/
theorem keeps_lowerRuns : ∀ run ∈ lowerRuns, run.Keeps numericRanges.tail := by decide +kernel

/-- Every run of the upper-case mapping keeps the numbers past ASCII. -/
theorem keeps_upperRuns : ∀ run ∈ upperRuns, run.Keeps numericRanges.tail := by decide +kernel

/-- A character in another case begins with such a number if it is one itself. -/
theorem exists_mapCase_eq {runs : List CaseRun} {expansions : List (Nat × List Nat)}
    (hnames : ∀ run ∈ runs, run.KeepsNames) (hruns : ∀ run ∈ runs, run.Keeps numericRanges.tail)
    (hexpansions : ∀ entry ∈ expansions, Ranges.contains numericRanges.tail entry.1 = false ∧
      entry.2.head?.any fun n => !isOtherNumber (Char.ofNat n)) (c : Char) :
    ∃ d ds, mapCase runs expansions c = d :: ds ∧ isOtherNumber d = isOtherNumber c := by
  rw [mapCase]
  split
  · next ns hlookup =>
    obtain ⟨front, back, rfl, -⟩ := List.lookup_eq_some_iff.1 hlookup
    obtain ⟨hc, hhead⟩ := hexpansions (c.toNat, ns) (by simp)
    cases ns with
    | nil => cases hhead
    | cons n ns =>
      refine ⟨Char.ofNat n, ns.map Char.ofNat, rfl, ?_⟩
      rw [isOtherNumber_eq c, hc]
      simpa using hhead
  · split
    · next n hfound =>
      obtain ⟨run, hrun, himage⟩ := List.exists_of_findSome?_eq_some hfound
      refine ⟨Char.ofNat n, [], rfl, ?_⟩
      rw [isOtherNumber_eq, isOtherNumber_eq, toNat_ofNat ((hnames run hrun).isValidChar himage)]
      exact (hruns run hrun).contains_eq himage
    · exact ⟨c, [], rfl, rfl⟩

/-- Lower-casing a character gives one that is a number past ASCII if the character is. -/
theorem exists_lower_eq_cons (c : Char) :
    ∃ d ds, lower c = d :: ds ∧ isOtherNumber d = isOtherNumber c :=
  exists_mapCase_eq keepsNames_lowerRuns keeps_lowerRuns (by decide) c

/-- Upper-casing a character gives one that is a number past ASCII if the character is. -/
theorem exists_upper_eq_cons (c : Char) :
    ∃ d ds, upper c = d :: ds ∧ isOtherNumber d = isOtherNumber c :=
  exists_mapCase_eq keepsNames_upperRuns keeps_upperRuns (by decide +kernel) c

end Unicode

namespace Naming

open Unicode

/-- The text has a first character, which is a number other than an ASCII digit if `c` is. -/
def BeginsAs (c : Char) (text : String) : Prop :=
  ∃ d ds, text.toList = d :: ds ∧ isOtherNumber d = isOtherNumber c

/-- How a text begins is not changed behind it. -/
theorem BeginsAs.append {c : Char} {text : String} (h : BeginsAs c text) (back : String) :
    BeginsAs c (text ++ back) := by
  obtain ⟨d, ds, htext, hd⟩ := h
  exact ⟨d, ds ++ back.toList, by rw [String.toList_append, htext, List.cons_append], hd⟩

section
variable {word : String} {c : Char} {cs : List Char} (hword : word.toList = c :: cs)
include hword

/-- A capitalized word begins with a number past ASCII if the word does. -/
theorem beginsAs_capitalize : BeginsAs c (capitalize word) := by
  obtain ⟨d, ds, hupper, hd⟩ := exists_upper_eq_cons c
  refine ⟨d, ds ++ cs, ?_, hd⟩
  rw [capitalize]
  split
  · next hempty => simp [hempty] at hword
  · next first rest hcons =>
    cases hcons.symm.trans hword
    rw [String.toList_ofList, hupper, List.cons_append]

/-- A lower-cased word begins with a number past ASCII if the word does. -/
theorem beginsAs_lowercase : BeginsAs c (lowercase word) := by
  rw [lowercase, hword, lowercaseAfter]
  by_cases hsigma : c = 'Σ'
  · refine ⟨lowerSigma [] cs, lowercaseAfter [c] cs, ?_, ?_⟩
    · rw [if_pos hsigma, String.toList_ofList, List.singleton_append]
    · rw [hsigma, lowerSigma]
      split <;> decide
  · obtain ⟨d, ds, hlower, hd⟩ := exists_lower_eq_cons c
    refine ⟨d, ds ++ lowercaseAfter [c] cs, ?_, hd⟩
    rw [if_neg hsigma, hlower, String.toList_ofList, List.cons_append]

end

/-- The first word of a key begins with its first word character. -/
theorem exists_eq_cons_of_words {key first : String} {others : List String}
    (h : words key = first :: others) :
    ∃ c cs, first.toList = c :: cs ∧ key.toList.find? isWordChar = some c := by
  obtain ⟨c, cs, hfirst⟩ := List.exists_cons_of_ne_nil
    (isWord_of_mem_words (h ▸ List.mem_cons_self : first ∈ words key)).1
  refine ⟨c, cs, hfirst, ?_⟩
  rw [← List.head?_filter, ← flatten_words, h, List.flatMap_cons, hfirst]
  rfl

/-- A name is what its words begin with, made fit to be an identifier. -/
theorem exists_eq_identifier {key name first : String} {others : List String} {c : Char}
    {cs : List Char} (hname : name ∈ [lowerCamel key, upperCamel key, snake key])
    (hwords : words key = first :: others) (hfirst : first.toList = c :: cs) :
    ∃ text, name = identifier text ∧ BeginsAs c text := by
  simp only [List.mem_cons, List.not_mem_nil, or_false] at hname
  rcases hname with rfl | rfl | rfl
  · exact ⟨lowercase first ++ joinCapitalized others, by rw [lowerCamel, hwords],
      (beginsAs_lowercase hfirst).append _⟩
  · refine ⟨joinCapitalized (words key), rfl, ?_⟩
    rw [hwords, joinCapitalized, List.map_cons, String.join_cons]
    exact (beginsAs_capitalize hfirst).append _
  · refine ⟨"_".intercalate ((words key).map lowercase), rfl, ?_⟩
    rw [hwords, List.map_cons]
    cases others with
    | nil => simpa using beginsAs_lowercase hfirst
    | cons next others =>
      rw [List.map_cons, String.intercalate_cons_cons, String.append_assoc]
      exact (beginsAs_lowercase hfirst).append _

/-- An identifier begins with a number just when its text begins with one that is no ASCII digit. -/
theorem exists_identifier_eq_cons {c : Char} {text : String} (h : BeginsAs c text) :
    ∃ d ds, (identifier text).toList = d :: ds ∧ d.isDigit = false ∧
      isNumeric d = isOtherNumber c := by
  obtain ⟨d, ds, htext, hd⟩ := h
  rw [identifier, htext]
  by_cases hdigit : d.isDigit
  · refine ⟨'_', text.toList, by simp [hdigit], rfl, ?_⟩
    rw [← hd, isOtherNumber, hdigit, Bool.not_true, Bool.and_false]
    decide
  · refine ⟨d, ds, by simp [hdigit, htext], Bool.eq_false_iff.2 hdigit, ?_⟩
    rw [← hd, isOtherNumber, Bool.eq_false_iff.2 hdigit, Bool.not_false, Bool.and_true]

/-- A name has a first character, which is no ASCII digit, and which is a number if and only if the
first word character of the key is a number that is no ASCII digit. -/
theorem isNumeric_first_iff {key name : String}
    (h : name ∈ [lowerCamel key, upperCamel key, snake key]) :
    ∃ c cs, name.toList = c :: cs ∧ c.isDigit = false ∧
      (isNumeric c ↔
        ∃ d, key.toList.find? isWordChar = some d ∧ isNumeric d ∧ d.isDigit = false) := by
  cases hwords : words key with
  | nil =>
    have hname : name = "value" := by
      simp only [List.mem_cons, List.not_mem_nil, or_false] at h
      rcases h with rfl | rfl | rfl
      · rw [lowerCamel, hwords]; rfl
      · rw [upperCamel, hwords]; rfl
      · rw [snake, hwords]; rfl
    have hnone : key.toList.find? isWordChar = none := by
      simpa using words_eq_nil_iff.1 hwords
    refine ⟨'v', "alue".toList, by rw [hname]; rfl, rfl, ?_⟩
    have hletter : isNumeric 'v' = false := by decide
    simp [hnone, hletter]
  | cons first others =>
    obtain ⟨c, cs, hfirst, hfind⟩ := exists_eq_cons_of_words hwords
    obtain ⟨text, rfl, hbegins⟩ := exists_eq_identifier h hwords hfirst
    obtain ⟨d, ds, hname, hdigit, hnumber⟩ := exists_identifier_eq_cons hbegins
    refine ⟨d, ds, hname, hdigit, ?_⟩
    rw [hnumber, hfind]
    simp [isOtherNumber]

/-- The names of a key that begins with a full-width three begin with it. -/
theorem isNumeric_first_fullWidth :
    snake "\uff13d_model" ∈
        [lowerCamel "\uff13d_model", upperCamel "\uff13d_model", snake "\uff13d_model"] ∧
      ∃ c cs, (snake "\uff13d_model").toList = c :: cs ∧ c.isDigit = false ∧ isNumeric c := by
  have hname : snake "\uff13d_model" ∈
      [lowerCamel "\uff13d_model", upperCamel "\uff13d_model", snake "\uff13d_model"] := by simp
  obtain ⟨c, cs, hfirst, hdigit, hnumber⟩ := isNumeric_first_iff hname
  refine ⟨hname, c, cs, hfirst, hdigit, hnumber.2 ⟨'\uff13', ?_, ?_, ?_⟩⟩ <;> decide +kernel

/-- Names may begin with numbers. -/
theorem not_isNumeric_first_eq_false : ¬ ∀ key : String,
    ∀ name ∈ [lowerCamel key, upperCamel key, snake key],
      ∃ c cs, name.toList = c :: cs ∧ isNumeric c = false := by
  intro h
  obtain ⟨c, cs, hname, hc⟩ := h "\uff13d_model" (snake "\uff13d_model") (by simp)
  have hsnake : snake "\uff13d_model" = "\uff13d_model" := by decide +kernel
  rw [hsnake] at hname
  cases hname
  exact absurd hc (by decide)

end Naming

end PayloadModels
