import PayloadModels.Proofs.Naming.Capitals
import PayloadModels.Proofs.Naming.Splitting
import PayloadModels.Proofs.Naming.Words

/-!
# Casing a name again

A name that was made of a key over ASCII is its own name in the same casing (`casing_idempotent`).
In snake case it has the words that it was made of. In camel case it may have others, since letters
and digits that stand alone are drawn to the words beside them: `a_b_c` becomes `aBC`, with the
words `a` and `BC`. But a text of letters and digits is cut before capitals only. So its words, put
in camel case, give the text back (`joinCapitalized_words`). The exception is a key without letters
and digits: its name is `value`, and the name of that in upper camel case is `Value`.
-/

namespace PayloadModels.Naming

open Unicode

/-! ## Changing the case of ASCII characters -/

/-- The letters and digits meant here are those of ASCII. -/
theorem isAscii_of_isAlphanum {c : Char} (h : c.isAlphanum) : IsAscii c := by
  rcases Bool.or_eq_true_iff.1 h with hletter | hdigit
  · exact toNat_lt_of_isAlpha hletter
  · have hlast : c.val ≤ '9'.val := of_decide_eq_true (Bool.and_eq_true_iff.1 hdigit).2
    exact Nat.lt_of_le_of_lt (UInt32.le_iff_toNat_le.1 hlast) (by decide)

/-- A text of ASCII letters and digits is one over ASCII. -/
theorem MadeOf.isAscii {text : String} (h : MadeOf (·.isAlphanum) text) : MadeOf IsAscii text :=
  fun c hc => isAscii_of_isAlphanum (h c hc)

/-- Small letters and digits are letters and digits. -/
theorem isAlphanum_of_isSmall {c : Char} (h : isSmall c) : c.isAlphanum := by
  have hletter : c.isLower → c.isAlpha := fun hlower => Bool.or_eq_true_iff.2 (.inr hlower)
  exact Bool.or_eq_true_iff.2 ((Bool.or_eq_true_iff.1 h).imp_left hletter)

/-- What is checked of every ASCII code point holds of every ASCII letter and digit. -/
theorem alphanum_forall {p : Char → Prop}
    (h : ∀ n < 0x80, (Char.ofNat n).isAlphanum → p (Char.ofNat n)) {c : Char} (hc : c.isAlphanum) :
    p c :=
  ascii_forall (p := fun c => c.isAlphanum → p c) h (isAscii_of_isAlphanum hc) hc

/-- Over ASCII, lower-casing goes character by character. -/
theorem lowercaseAfter_ascii {before cs : List Char} (h : ∀ c ∈ cs, IsAscii c) :
    lowercaseAfter before cs = cs.map Char.toLower := by
  induction cs generalizing before with
  | nil => rfl
  | cons c cs ih =>
    obtain ⟨hc, hcs⟩ := List.forall_mem_cons.1 h
    have hsigma : c ≠ 'Σ' := by
      rintro rfl
      exact absurd hc (by decide)
    rw [lowercaseAfter, if_neg hsigma, lower_ascii hc, ih hcs]
    rfl

/-- A lower-cased word has the small forms of its characters. -/
theorem toList_lowercase {word : String} (h : MadeOf (·.isAlphanum) word) :
    (lowercase word).toList = word.toList.map Char.toLower := by
  rw [lowercase, String.toList_ofList]
  exact lowercaseAfter_ascii h.isAscii

/-- Letters and digits in lower case are small. -/
theorem isSmall_lowercase {word : String} (h : MadeOf (·.isAlphanum) word) :
    MadeOf (isSmall ·) (lowercase word) := by
  intro c hc
  rw [toList_lowercase h, List.mem_map] at hc
  obtain ⟨d, hd, rfl⟩ := hc
  exact alphanum_forall (p := fun d => isSmall d.toLower) (by decide) (h d hd)

/-- A text that is small already stays as it is. -/
theorem lowercase_of_isSmall {text : String} (h : MadeOf (isSmall ·) text) :
    lowercase text = text := by
  have halphanum : MadeOf (·.isAlphanum) text := fun c hc => isAlphanum_of_isSmall (h c hc)
  have hsame : ∀ c ∈ text.toList, c.toLower = c := fun c hc =>
    alphanum_forall (p := fun c => isSmall c → c.toLower = c) (by decide) (halphanum c hc)
      (h c hc)
  apply String.toList_inj.1
  rw [toList_lowercase halphanum, List.map_congr_left hsame, List.map_id']

/-- Capitalizing leaves ASCII letters and digits. -/
theorem isAlphanum_capitalize {word : String} (h : MadeOf (·.isAlphanum) word) :
    MadeOf (·.isAlphanum) (capitalize word) := by
  rw [capitalize]
  split
  · simp [MadeOf]
  · next first rest hword =>
    rw [MadeOf, hword] at h
    obtain ⟨hfirst, hrest⟩ := List.forall_mem_cons.1 h
    have hupper : first.toUpper.isAlphanum :=
      alphanum_forall (p := fun c => c.toUpper.isAlphanum) (by decide) hfirst
    rw [MadeOf, String.toList_ofList, upper_ascii (isAscii_of_isAlphanum hfirst),
      List.singleton_append]
    exact List.forall_mem_cons.2 ⟨hupper, hrest⟩

/-- A word that begins with a capital or a digit is capitalized. -/
theorem capitalize_eq_self {word : String} (h : MadeOf (·.isAlphanum) word)
    (hbegins : beginsSmall word = false) : capitalize word = word := by
  rw [capitalize]
  split
  · next hempty => rw [String.toList_eq_nil_iff.1 hempty]
  · next first rest hword =>
    rw [beginsSmall, hword] at hbegins
    have hfirst : first.isAlphanum := h first (hword ▸ List.mem_cons_self)
    have hsame : first.toUpper = first :=
      alphanum_forall (p := fun c => c.isLower = false → c.toUpper = c) (by decide)
        hfirst hbegins
    rw [upper_ascii (isAscii_of_isAlphanum hfirst), hsame, List.singleton_append, ← hword,
      String.ofList_toList]

/-- Capitalizing and joining words leaves ASCII letters and digits. -/
theorem isAlphanum_joinCapitalized {ws : List String}
    (h : ∀ word ∈ ws, MadeOf (·.isAlphanum) word) :
    MadeOf (·.isAlphanum) (joinCapitalized ws) := by
  refine MadeOf.join fun text htext => ?_
  obtain ⟨word, hword, rfl⟩ := List.mem_map.1 htext
  exact isAlphanum_capitalize (h word hword)

/-- Words that begin with capitals or digits are joined as they are. -/
theorem joinCapitalized_eq_join {ws : List String} (h : ∀ word ∈ ws, MadeOf (·.isAlphanum) word)
    (hbegin : ∀ word ∈ ws, beginsSmall word = false) : joinCapitalized ws = String.join ws := by
  have hsame : ∀ word ∈ ws, capitalize word = word := fun word hword =>
    capitalize_eq_self (h word hword) (hbegin word hword)
  rw [joinCapitalized, List.map_congr_left hsame, List.map_id']

/-! ## The words of a name -/

/-- The words of a key over ASCII are made of letters and digits. -/
theorem isAlphanum_of_mem_words {key word : String} (h : MadeOf IsAscii key)
    (hword : word ∈ words key) : MadeOf (·.isAlphanum) word := by
  refine madeOf_of_mem_words (fun c hc hchar => ?_) hword
  exact ascii_forall (p := fun c => isWordChar c → c.isAlphanum) (by decide) (h c hc) hchar

/-- Words may hold ASCII letters and digits. -/
theorem isWordChar_of_isAlphanum {c : Char} (h : c.isAlphanum) : isWordChar c :=
  alphanum_forall (p := (isWordChar ·)) (by decide) h

/-- The underscore that makes a name an identifier is in none of its words. -/
theorem words_identifier {name : String} (h : name ≠ "") :
    words (identifier name) = words name := by
  rw [identifier]
  split
  · next hempty => exact absurd (String.toList_eq_nil_iff.1 hempty) h
  · split
    · have hunderscore : ("_" ++ name).toList = '_' :: name.toList := by
        rw [String.toList_append]
        rfl
      have hseparator : isWordChar '_' = false := by decide
      rw [words, hunderscore, wordsFrom, hseparator]
      rfl
    · rfl

/-- A text of word characters is cut before capitals only. -/
theorem exists_wordsFrom_eq_cons {pending cs : List Char} (hpending : pending ≠ [])
    (hcs : ∀ c ∈ cs, isWordChar c) : ∃ front others,
      wordsFrom pending cs = (pending.reverse ++ front) :: others ∧
        ∀ word ∈ others, word.head?.any isUppercase := by
  fun_induction wordsFrom pending cs with
  | case1 pending => exact ⟨[], [], by simp [finished, hpending], by simp⟩
  | case2 pending c rest hc ih => simp [hcs c List.mem_cons_self] at hc
  | case3 pending c rest hc hopens ih =>
    obtain ⟨front, others, heq, hothers⟩ :=
      ih (List.cons_ne_nil c []) (List.forall_mem_cons.1 hcs).2
    have hupper : isUppercase c := by
      obtain ⟨last, pending, rfl⟩ := List.exists_cons_of_ne_nil hpending
      exact (Bool.and_eq_true_iff.1 hopens).1
    refine ⟨[], wordsFrom [c] rest, by rw [List.append_nil], ?_⟩
    rw [heq]
    exact List.forall_mem_cons.2 ⟨hupper, hothers⟩
  | case4 pending c rest hc hopens ih =>
    obtain ⟨front, others, heq, hothers⟩ :=
      ih (List.cons_ne_nil c pending) (List.forall_mem_cons.1 hcs).2
    exact ⟨c :: front, others, by simpa using heq, hothers⟩

/-- A text that begins with a capital does not begin small. -/
theorem beginsSmall_ofList {cs : List Char} (h : cs.head?.any isUppercase) :
    beginsSmall (String.ofList cs) = false := by
  rw [beginsSmall, String.toList_ofList]
  cases cs with
  | nil => rfl
  | cons c cs =>
    refine Bool.eq_false_iff.2 fun hlower => ?_
    have halphanum : c.isAlphanum := isAlphanum_of_isSmall (Bool.or_eq_true_iff.2 (.inl hlower))
    have hnot : isUppercase c = false :=
      alphanum_forall (p := fun c => c.isLower → isUppercase c = false) (by decide)
        halphanum hlower
    exact absurd h (by simp [hnot])

/-- A text of letters and digits has a first word, which begins as the text does, and others, which
begin with capitals. -/
theorem exists_words_eq_cons {text : String} (h : MadeOf (·.isAlphanum) text) {c : Char}
    {cs : List Char} (htext : text.toList = c :: cs) : ∃ first others,
      words text = first :: others ∧ first.toList.head? = some c ∧
        ∀ word ∈ others, beginsSmall word = false := by
  rw [MadeOf, htext] at h
  obtain ⟨hc, hcs⟩ := List.forall_mem_cons.1 h
  obtain ⟨front, others, heq, hothers⟩ := exists_wordsFrom_eq_cons (List.cons_ne_nil c [])
    fun d hd => isWordChar_of_isAlphanum (hcs d hd)
  have hwords : words text = String.ofList (c :: front) :: others.map String.ofList := by
    rw [words, htext, wordsFrom, isWordChar_of_isAlphanum hc]
    exact congrArg (List.map String.ofList) heq
  refine ⟨_, _, hwords, by rw [String.toList_ofList]; rfl, fun word hword => ?_⟩
  obtain ⟨other, hother, rfl⟩ := List.mem_map.1 hword
  exact beginsSmall_ofList (hothers other hother)

/-- A text without separators is its words, joined. -/
theorem join_words {text : String} (h : MadeOf (·.isAlphanum) text) :
    String.join (words text) = text := by
  apply String.toList_inj.1
  rw [String.toList_join, flatten_words]
  exact List.filter_eq_self.2 fun c hc => isWordChar_of_isAlphanum (h c hc)

/-- The words of a text of letters and digits that begins with no small letter give the text
back. -/
theorem joinCapitalized_words {text : String} (h : MadeOf (·.isAlphanum) text)
    (hbegins : beginsSmall text = false) : joinCapitalized (words text) = text := by
  have hbegin : ∀ word ∈ words text, beginsSmall word = false := by
    cases htext : text.toList with
    | nil =>
      rw [String.toList_eq_nil_iff.1 htext]
      intro word hword
      cases hword
    | cons c cs =>
      obtain ⟨first, others, hwords, hfirst, hothers⟩ := exists_words_eq_cons h htext
      rw [beginsSmall, htext] at hbegins
      rw [hwords]
      refine List.forall_mem_cons.2 ⟨?_, hothers⟩
      rw [beginsSmall, hfirst]
      exact hbegins
  rw [joinCapitalized_eq_join (fun word => isAlphanum_of_mem_words h.isAscii) hbegin, join_words h]

/-! ## Names again -/

/-- Words of small letters and digits make the same name in snake case again. -/
theorem snake_identifier {ws : List String}
    (h : ∀ word ∈ ws, word ≠ "" ∧ MadeOf (isSmall ·) word) :
    snake (identifier ("_".intercalate ws)) = identifier ("_".intercalate ws) := by
  by_cases hempty : "_".intercalate ws = ""
  · rw [hempty]
    decide
  · have hwords : ∀ word ∈ ws, IsWord word.toList := fun word hword => by
      obtain ⟨hne, hsmall⟩ := h word hword
      refine (isWord_iff_isAsciiWord fun c hc => ?_).2 ⟨mt String.toList_eq_nil_iff.1 hne, ?_⟩
      · exact isAscii_of_isAlphanum (isAlphanum_of_isSmall (hsmall c hc))
      · exact .capitalized none (by simp) hsmall
    rw [snake, words_identifier hempty, words_intercalate hwords,
      List.map_congr_left fun word hword => lowercase_of_isSmall (h word hword).2, List.map_id']

/-- Letters and digits that begin with no small letter make the same name in upper camel case
again. -/
theorem upperCamel_identifier {text : String} (h : MadeOf (·.isAlphanum) text) (hne : text ≠ "")
    (hbegins : beginsSmall text = false) : upperCamel (identifier text) = identifier text := by
  rw [upperCamel, words_identifier hne, joinCapitalized_words h hbegins]

/-- Letters and digits that begin with a small one make the same name in lower camel case again. -/
theorem lowerCamel_identifier {text : String} (h : MadeOf (·.isAlphanum) text) {c : Char}
    {cs : List Char} (htext : text.toList = c :: cs) (hsmall : isSmall c) :
    lowerCamel (identifier text) = identifier text := by
  have hne : text ≠ "" := by
    rintro rfl
    cases htext
  obtain ⟨first, others, hwords, hfirst, hothers⟩ := exists_words_eq_cons h htext
  have hmade : ∀ word ∈ first :: others, MadeOf (·.isAlphanum) word := fun word hword =>
    isAlphanum_of_mem_words h.isAscii (hwords ▸ hword)
  obtain ⟨hmadeFirst, hmadeOthers⟩ := List.forall_mem_cons.1 hmade
  have hsmallFirst : MadeOf (isSmall ·) first := by
    have hword := isWord_of_mem_words (hwords ▸ List.mem_cons_self : first ∈ words text)
    obtain ⟨rest, hrest⟩ := List.head?_eq_some_iff.1 hfirst
    rw [MadeOf, hrest] at hmadeFirst ⊢
    obtain ⟨hc, hascii⟩ :=
      List.forall_mem_cons.1 fun d hd => isAscii_of_isAlphanum (hmadeFirst d hd)
    rw [hrest] at hword
    exact List.forall_mem_cons.2 ⟨hsmall, (carriesOn_small_iff hc hsmall hascii).1 hword.2.2.2⟩
  rw [lowerCamel, words_identifier hne, hwords]
  show identifier (lowercase first ++ joinCapitalized others) = identifier text
  rw [lowercase_of_isSmall hsmallFirst, joinCapitalized_eq_join hmadeOthers hothers,
    ← String.join_cons, ← hwords, join_words h]

/-- Capitalizing loses no word. -/
theorem capitalize_ne_empty {word : String} (h : word ≠ "") : capitalize word ≠ "" := by
  rw [capitalize]
  split
  · next hempty => exact absurd (String.toList_eq_nil_iff.1 hempty) h
  · next first rest hword =>
    obtain ⟨d, ds, hupper, -⟩ := exists_upper_eq first
    rw [hupper]
    simp

/-- Lower-casing loses no word. -/
theorem lowercase_ne_empty {word : String} (h : MadeOf (·.isAlphanum) word) (hne : word ≠ "") :
    lowercase word ≠ "" := by
  rw [ne_eq, ← String.toList_eq_nil_iff, toList_lowercase h, List.map_eq_nil_iff,
    String.toList_eq_nil_iff]
  exact hne

section
variable {key : String} (h : MadeOf IsAscii key)
include h

/-- The lower-cased words of a key over ASCII are small, and none is empty. -/
theorem isSmall_of_mem_words {word : String} (hword : word ∈ words key) :
    lowercase word ≠ "" ∧ MadeOf (isSmall ·) (lowercase word) := by
  have hmade := isAlphanum_of_mem_words h hword
  have hne : word ≠ "" := mt String.toList_eq_nil_iff.2 (isWord_of_mem_words hword).1
  exact ⟨lowercase_ne_empty hmade hne, isSmall_lowercase hmade⟩

/-- A name in snake case is its own snake case. -/
theorem snake_snake : snake (snake key) = snake key := by
  refine snake_identifier fun text htext => ?_
  obtain ⟨word, hword, rfl⟩ := List.mem_map.1 htext
  exact isSmall_of_mem_words h hword

/-- A name in lower camel case is its own lower camel case. -/
theorem lowerCamel_lowerCamel : lowerCamel (lowerCamel key) = lowerCamel key := by
  cases hwords : words key with
  | nil =>
    have hname : lowerCamel key = identifier "" := by rw [lowerCamel, hwords]
    rw [hname]
    decide
  | cons first others =>
    have hname : lowerCamel key = identifier (lowercase first ++ joinCapitalized others) := by
      rw [lowerCamel, hwords]
    have hmade : ∀ word ∈ first :: others, MadeOf (·.isAlphanum) word := fun word hword =>
      isAlphanum_of_mem_words h (hwords ▸ hword)
    obtain ⟨hne, hsmall⟩ := isSmall_of_mem_words h (hwords ▸ List.mem_cons_self : first ∈ words key)
    obtain ⟨c, cs, hfirst⟩ := List.exists_cons_of_ne_nil (mt String.toList_eq_nil_iff.1 hne)
    have hmadeFirst : MadeOf (·.isAlphanum) (lowercase first) := fun d hd =>
      isAlphanum_of_isSmall (hsmall d hd)
    have hmadeOthers := isAlphanum_joinCapitalized (List.forall_mem_cons.1 hmade).2
    have htext : (lowercase first ++ joinCapitalized others).toList
        = c :: (cs ++ (joinCapitalized others).toList) := by
      rw [String.toList_append, hfirst, List.cons_append]
    have hc : c ∈ (lowercase first).toList := hfirst ▸ List.mem_cons_self
    rw [hname]
    exact lowerCamel_identifier (hmadeFirst.append hmadeOthers) htext (hsmall c hc)

/-- A name in upper camel case is its own upper camel case, unless its key had no words. -/
theorem upperCamel_upperCamel_iff :
    upperCamel (upperCamel key) = upperCamel key ↔ words key ≠ [] := by
  constructor
  · intro hagain hnone
    rw [upperCamel, upperCamel, hnone] at hagain
    exact absurd hagain (by decide)
  · intro hsome
    obtain ⟨first, others, hwords⟩ := List.exists_cons_of_ne_nil hsome
    have hfirst : first ≠ "" :=
      mt String.toList_eq_nil_iff.2 (isWord_of_mem_words (hwords ▸ List.mem_cons_self)).1
    refine upperCamel_identifier
      (isAlphanum_joinCapitalized fun word => isAlphanum_of_mem_words h) ?_
      (beginsSmall_joinCapitalized (words key))
    rw [hwords, joinCapitalized, List.map_cons, String.join_cons]
    exact fun hempty => capitalize_ne_empty hfirst (String.append_eq_empty_iff.1 hempty).1

/-- The name of a key over ASCII is its own name in the same casing, but for the name `value` of a
key without letters and digits in upper camel case. -/
theorem casing_idempotent :
    snake (snake key) = snake key ∧ lowerCamel (lowerCamel key) = lowerCamel key ∧
      (upperCamel (upperCamel key) = upperCamel key ↔ ∃ c ∈ key.toList, c.isAlphanum) := by
  refine ⟨snake_snake h, lowerCamel_lowerCamel h, (upperCamel_upperCamel_iff h).trans ?_⟩
  have hchars : (∃ c ∈ key.toList, isWordChar c) ↔ ∃ c ∈ key.toList, c.isAlphanum :=
    exists_congr fun c => and_congr_right fun hc =>
      ascii_forall (p := fun c => isWordChar c ↔ c.isAlphanum) (by decide) (h c hc)
  rw [← hchars, ne_eq, words_eq_nil_iff]
  simp

end

/-- Words of a single letter run together in lower camel case, which is stable all the same. -/
theorem casing_idempotent_singleLetters :
    MadeOf IsAscii "3_d_X_y" ∧ words (lowerCamel "3_d_X_y") = ["3", "DXY"] ∧
      snake (snake "3_d_X_y") = snake "3_d_X_y" ∧
      lowerCamel (lowerCamel "3_d_X_y") = lowerCamel "3_d_X_y" ∧
      upperCamel (upperCamel "3_d_X_y") = upperCamel "3_d_X_y" := by
  have hascii : MadeOf IsAscii "3_d_X_y" := by decide
  obtain ⟨hsnake, hlower, hupper⟩ := casing_idempotent hascii
  exact ⟨hascii, by decide, hsnake, hlower, hupper.2 ⟨'3', by decide, by decide⟩⟩

end PayloadModels.Naming
