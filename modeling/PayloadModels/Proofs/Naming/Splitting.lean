import PayloadModels.Proofs.Naming.Characters

/-!
# Words as a normal form

The words of a key can be taken out of it: each of them is its own only word, and when they are
joined by underscores they are found again (`words_normalForm`). Whether a character begins a word
is told by the characters beside it. The one before it is in the same word. The one after it may be
missing once the word stands alone, or be an underscore, but only a small letter there can make a
character begin a word (`opensWord_append`).

Over ASCII the words are told by their shape (`IsAsciiWord`): small letters and digits behind a
capital or none, or several capitals that no small letter follows.
-/

namespace PayloadModels.Naming

open Unicode

/-! ## Words on their own -/

/-- The characters carry the word `pending` on to their end: all of them are word characters, and
none begins a new word. -/
def CarriesOn : List Char → List Char → Prop
  | _, [] => True
  | pending, c :: rest =>
    isWordChar c ∧ opensWord pending c rest = false ∧ CarriesOn (c :: pending) rest

/-- A word: it has a character, and none but the first begins a word. -/
def IsWord (cs : List Char) : Prop := cs ≠ [] ∧ CarriesOn [] cs

/-- A character that begins no word begins none when the text ends earlier. -/
theorem opensWord_of_isPrefix {pending front rest : List Char} {c : Char} (hfront : front <+: rest)
    (h : opensWord pending c rest = false) : opensWord pending c front = false := by
  cases pending with
  | nil => rfl
  | cons last pending =>
    cases front with
    | nil =>
      simp only [opensWord, Bool.and_eq_false_iff, Bool.or_eq_false_iff] at h ⊢
      exact h.imp_right fun h => ⟨h.1, .inr rfl⟩
    | cons next front =>
      obtain ⟨back, rfl⟩ := hfront
      exact h

/-- What follows a word matters to its last character only if it is a small letter. -/
theorem opensWord_append {back : List Char} (hback : back.head?.any isLowercase = false)
    (pending rest : List Char) (c : Char) :
    opensWord pending c (rest ++ back) = opensWord pending c rest := by
  cases pending with
  | nil => rfl
  | cons last pending =>
    cases rest with
    | nil => rw [List.nil_append, opensWord, opensWord, hback]; rfl
    | cons next rest => rfl

/-- Characters that carry a word on become part of it. -/
theorem wordsFrom_append {pending front back : List Char} (h : CarriesOn pending front)
    (hback : back.head?.any isLowercase = false) :
    wordsFrom pending (front ++ back) = wordsFrom (front.reverse ++ pending) back := by
  induction front generalizing pending with
  | nil => rfl
  | cons c front ih =>
    obtain ⟨hc, hopens, hfront⟩ := h
    rw [List.cons_append, wordsFrom, opensWord_append hback, hopens, hc]
    simp [ih hfront]

/-- Characters that are pending are one word when they are finished. -/
theorem finished_reverse {cs : List Char} (h : cs ≠ []) : finished cs.reverse = [cs] := by
  simp [finished, h]

/-- What is pending is a word when it is finished. -/
theorem isWord_of_mem_finished {front word : List Char} (h : CarriesOn [] front)
    (hword : word ∈ finished front.reverse) : IsWord word := by
  by_cases hfront : front = []
  · rw [hfront] at hword
    cases hword
  · rw [finished_reverse hfront, List.mem_singleton] at hword
    exact hword ▸ ⟨hfront, h⟩

/-- The pending word is carried on by what comes first, and the others are words. -/
theorem exists_wordsFrom_eq (pending cs : List Char) : ∃ front others,
    wordsFrom pending cs = finished (front.reverse ++ pending) ++ others ∧ front <+: cs ∧
      CarriesOn pending front ∧ ∀ word ∈ others, IsWord word := by
  fun_induction wordsFrom pending cs with
  | case1 pending => exact ⟨[], [], by simp, List.prefix_rfl, trivial, by simp⟩
  | case2 pending c rest hc ih =>
    obtain ⟨front, others, heq, -, hfront, hothers⟩ := ih
    refine ⟨[], wordsFrom [] rest, rfl, List.nil_prefix, trivial, fun word hword => ?_⟩
    rw [heq, List.append_nil] at hword
    exact (List.mem_append.1 hword).elim (isWord_of_mem_finished hfront) (hothers word)
  | case3 pending c rest hc hopens ih =>
    obtain ⟨front, others, heq, -, hfront, hothers⟩ := ih
    have hpending : pending ≠ [] := by
      rintro rfl
      cases hopens
    have hnext : finished (front.reverse ++ [c]) = [c :: front] := by
      rw [← List.reverse_cons, finished_reverse (List.cons_ne_nil c front)]
    refine ⟨[], wordsFrom [c] rest, ?_, List.nil_prefix, trivial, fun word hword => ?_⟩
    · simp [finished, hpending]
    · rw [heq, hnext, List.singleton_append, List.mem_cons] at hword
      rcases hword with rfl | hword
      · exact ⟨List.cons_ne_nil c front, by simpa using hc, rfl, hfront⟩
      · exact hothers word hword
  | case4 pending c rest hc hopens ih =>
    obtain ⟨front, others, heq, hprefix, hfront, hothers⟩ := ih
    refine ⟨c :: front, others, by simpa using heq, List.prefix_cons_inj c |>.2 hprefix,
      ⟨by simpa using hc, ?_, hfront⟩, hothers⟩
    exact opensWord_of_isPrefix hprefix (Bool.eq_false_iff.2 hopens)

/-- What a text is split into are words. -/
theorem isWord_of_mem_wordsFrom {cs word : List Char} (h : word ∈ wordsFrom [] cs) :
    IsWord word := by
  obtain ⟨front, others, heq, -, hfront, hothers⟩ := exists_wordsFrom_eq [] cs
  rw [heq, List.append_nil] at h
  exact (List.mem_append.1 h).elim (isWord_of_mem_finished hfront) (hothers word)

/-- A word on its own is its only word. -/
theorem wordsFrom_eq_singleton {word : List Char} (h : IsWord word) :
    wordsFrom [] word = [word] := by
  have hword : wordsFrom [] (word ++ []) = wordsFrom (word.reverse ++ []) [] :=
    wordsFrom_append h.2 rfl
  rw [List.append_nil, List.append_nil] at hword
  rw [hword]
  exact finished_reverse h.1

/-- Words joined by underscores are cut apart again. -/
theorem wordsFrom_intercalate {ws : List (List Char)} (h : ∀ word ∈ ws, IsWord word) :
    wordsFrom [] (['_'].intercalate ws) = ws := by
  induction ws with
  | nil => rfl
  | cons word ws ih =>
    obtain ⟨hword, hws⟩ := List.forall_mem_cons.1 h
    cases ws with
    | nil => rw [List.intercalate_singleton, wordsFrom_eq_singleton hword]
    | cons next ws =>
      have hsmall : isLowercase '_' = false := by decide
      have hback : ('_' :: ['_'].intercalate (next :: ws)).head?.any isLowercase = false := hsmall
      have hseparator : isWordChar '_' = false := by decide
      rw [List.intercalate_cons_cons, List.append_assoc, List.singleton_append,
        wordsFrom_append hword.2 hback, List.append_nil, wordsFrom, hseparator, ih hws,
        finished_reverse hword.1]
      rfl

/-- What a key is split into are words. -/
theorem isWord_of_mem_words {key word : String} (h : word ∈ words key) : IsWord word.toList := by
  obtain ⟨cs, hcs, rfl⟩ := List.mem_map.1 h
  rw [String.toList_ofList]
  exact isWord_of_mem_wordsFrom hcs

/-- A key has no words when it has no word characters. -/
theorem words_eq_nil_iff {key : String} :
    words key = [] ↔ ∀ c ∈ key.toList, isWordChar c = false := by
  have hnone : key.toList.filter isWordChar = [] ↔ ∀ c ∈ key.toList, isWordChar c = false := by
    simp
  rw [← hnone, ← flatten_words, List.flatMap_eq_nil_iff]
  refine ⟨fun h => by simp [h], fun h => List.eq_nil_iff_forall_not_mem.2 fun word hword => ?_⟩
  exact (isWord_of_mem_words hword).1 (h word hword)

/-- The texts that are their own only word are the words. -/
theorem words_eq_singleton_iff {text : String} : words text = [text] ↔ IsWord text.toList := by
  refine ⟨fun h => isWord_of_mem_words (h ▸ List.mem_singleton_self text), fun h => ?_⟩
  rw [words, wordsFrom_eq_singleton h, List.map_singleton, String.ofList_toList]

/-- Words that underscores join are found again. -/
theorem words_intercalate {ws : List String} (h : ∀ word ∈ ws, IsWord word.toList) :
    words ("_".intercalate ws) = ws := by
  have hcs : ∀ word ∈ ws.map String.toList, IsWord word := by
    simpa [List.forall_mem_map] using h
  have hunderscore : "_".toList = ['_'] := rfl
  rw [words, String.toList_intercalate, hunderscore, wordsFrom_intercalate hcs, List.map_map]
  exact (List.map_congr_left fun word _ => String.ofList_toList).trans (List.map_id ws)

/-! ## Words over ASCII -/

/-- A small ASCII letter or a digit. -/
def isSmall (c : Char) : Bool := c.isLower || c.isDigit

/-- The shapes of words over ASCII. -/
inductive IsAsciiWord : List Char → Prop where
  /-- Small letters and digits, behind a capital or none. -/
  | capitalized (capital : Option Char) {tail : List Char} :
    (∀ c ∈ capital, c.isUpper) → (∀ c ∈ tail, isSmall c) → IsAsciiWord (capital.toList ++ tail)
  /-- At least two capitals, and then small letters and digits of which the first is a digit. -/
  | acronym (capitals : List Char) {tail : List Char} :
    2 ≤ capitals.length → (∀ c ∈ capitals, c.isUpper) → (∀ c ∈ tail.head?, c.isDigit) →
      (∀ c ∈ tail, isSmall c) → IsAsciiWord (capitals ++ tail)

namespace IsAscii

variable {c : Char} (h : IsAscii c)
include h

/-- Over ASCII, the capitals are `A` to `Z`. -/
theorem isUppercase_eq : isUppercase c = c.isUpper :=
  ascii_forall (p := fun c => isUppercase c = c.isUpper) (by decide) h

/-- Over ASCII, the small letters are `a` to `z`. -/
theorem isLowercase_eq : isLowercase c = c.isLower :=
  ascii_forall (p := fun c => isLowercase c = c.isLower) (by decide) h

/-- Over ASCII, words are made of letters and digits. -/
theorem isWordChar_eq : isWordChar c = (c.isUpper || isSmall c) :=
  ascii_forall (p := fun c => isWordChar c = (c.isUpper || isSmall c)) (by decide) h

/-- A capital is neither a small letter nor a digit. -/
theorem isSmall_of_isUpper (hupper : c.isUpper) : isSmall c = false :=
  ascii_forall (p := fun c => c.isUpper → isSmall c = false) (by decide) h hupper

/-- A capital is no small letter. -/
theorem isLower_of_isUpper (hupper : c.isUpper) : c.isLower = false :=
  ascii_forall (p := fun c => c.isUpper → c.isLower = false) (by decide) h hupper

/-- A digit is no small letter. -/
theorem isLower_of_isDigit (hdigit : c.isDigit) : c.isLower = false :=
  ascii_forall (p := fun c => c.isDigit → c.isLower = false) (by decide) h hdigit

end IsAscii

section
variable {last : Char} {pending rest : List Char}

/-- Over ASCII, whether a text begins with a small letter is told by the simple check. -/
theorem any_isLowercase_head? (hrest : ∀ c ∈ rest, IsAscii c) :
    rest.head?.any isLowercase = rest.head?.any Char.isLower := by
  cases rest with
  | nil => rfl
  | cons c rest => exact (hrest c List.mem_cons_self).isLowercase_eq

/-- Where ASCII characters begin words. -/
theorem opensWord_ascii {c : Char} (hlast : IsAscii last) (hc : IsAscii c)
    (hrest : ∀ c ∈ rest, IsAscii c) : opensWord (last :: pending) c rest
      = (c.isUpper && (isSmall last || last.isUpper && rest.head?.any Char.isLower)) := by
  rw [opensWord, hc.isUppercase_eq, hlast.isLowercase_eq, hlast.isUppercase_eq,
    any_isLowercase_head? hrest, isSmall]

/-- Behind a small letter or a digit, a word goes on with such characters only. -/
theorem carriesOn_small_iff (hlast : IsAscii last) (hsmall : isSmall last)
    (hrest : ∀ c ∈ rest, IsAscii c) :
    CarriesOn (last :: pending) rest ↔ ∀ c ∈ rest, isSmall c := by
  induction rest generalizing last pending with
  | nil => simp [CarriesOn]
  | cons c rest ih =>
    obtain ⟨hc, htail⟩ := List.forall_mem_cons.1 hrest
    rw [CarriesOn, opensWord_ascii hlast hc htail, hc.isWordChar_eq, hsmall, List.forall_mem_cons]
    by_cases hupper : c.isUpper
    · simp [hupper, hc.isSmall_of_isUpper hupper]
    · simp only [hupper, Bool.false_or, Bool.false_and, true_and]
      exact and_congr_right fun hcsmall => ih hc hcsmall htail

/-- Behind a capital, a word goes on with capitals and then with small letters and digits. If there
are more capitals, the first of these is a digit. -/
theorem exists_of_carriesOn_capital (hlast : IsAscii last) (hupper : last.isUpper)
    (hrest : ∀ c ∈ rest, IsAscii c) (h : CarriesOn (last :: pending) rest) :
    ∃ capitals tail, rest = capitals ++ tail ∧ (∀ c ∈ capitals, c.isUpper) ∧
      (∀ c ∈ tail, isSmall c) ∧ (capitals ≠ [] → ∀ c ∈ tail.head?, c.isDigit) := by
  induction rest generalizing last pending with
  | nil => exact ⟨[], [], rfl, by simp, by simp, by simp⟩
  | cons c rest ih =>
    obtain ⟨hc, htail⟩ := List.forall_mem_cons.1 hrest
    obtain ⟨hword, hopens, hcarries⟩ := h
    rw [hc.isWordChar_eq, Bool.or_eq_true] at hword
    by_cases hcapital : c.isUpper
    · obtain ⟨capitals, tail, rfl, hcapitals, hsmall, hdigit⟩ := ih hc hcapital htail hcarries
      refine ⟨c :: capitals, tail, rfl, List.forall_mem_cons.2 ⟨hcapital, hcapitals⟩, hsmall,
        fun _ d hd => ?_⟩
      by_cases hmore : capitals = []
      · -- No capital stands between `c` and `d`, so a small letter `d` would make `c` begin a word.
        rw [opensWord_ascii hlast hc htail, hcapital, hupper, hmore, List.nil_append, hd] at hopens
        have hlower : d.isLower = false := by simpa [hlast.isSmall_of_isUpper hupper] using hopens
        have hd := hsmall d (List.mem_of_mem_head? hd)
        rwa [isSmall, hlower] at hd
      · exact hdigit hmore d hd
    · have hsmall : isSmall c := hword.resolve_left hcapital
      refine ⟨[], c :: rest, rfl, by simp, List.forall_mem_cons.2 ⟨hsmall, ?_⟩, by simp⟩
      exact (carriesOn_small_iff hc hsmall htail).1 hcarries

/-- Behind a capital, more capitals carry the word on, and then small characters, which begin with a
digit if there were more capitals. -/
theorem carriesOn_capitals {capitals tail : List Char} (hlast : IsAscii last)
    (hupper : last.isUpper) (hrest : ∀ c ∈ capitals ++ tail, IsAscii c)
    (hcapitals : ∀ c ∈ capitals, c.isUpper) (htail : ∀ c ∈ tail, isSmall c)
    (hdigit : capitals ≠ [] → ∀ c ∈ tail.head?, c.isDigit) :
    CarriesOn (last :: pending) (capitals ++ tail) := by
  induction capitals generalizing last pending with
  | nil =>
    cases tail with
    | nil => trivial
    | cons c tail =>
      obtain ⟨hc, hascii⟩ := List.forall_mem_cons.1 hrest
      obtain ⟨hsmall, htail⟩ := List.forall_mem_cons.1 htail
      have hnot : c.isUpper = false := Bool.eq_false_iff.2 fun hcapital =>
        absurd (hc.isSmall_of_isUpper hcapital) (by simp [hsmall])
      refine ⟨by simp [hc.isWordChar_eq, hsmall], ?_,
        (carriesOn_small_iff hc hsmall hascii).2 htail⟩
      rw [opensWord_ascii hlast hc hascii, hnot]
      rfl
  | cons c capitals ih =>
    rw [List.cons_append] at hrest
    obtain ⟨hc, hascii⟩ := List.forall_mem_cons.1 hrest
    obtain ⟨hcapital, hcapitals⟩ := List.forall_mem_cons.1 hcapitals
    replace hdigit := hdigit (List.cons_ne_nil c capitals)
    have hnext : (capitals ++ tail).head?.any Char.isLower = false := by
      cases capitals with
      | nil =>
        cases tail with
        | nil => rfl
        | cons d tail =>
          have hd : d.isDigit := hdigit d rfl
          exact (hascii d List.mem_cons_self).isLower_of_isDigit hd
      | cons d capitals =>
        exact (hascii d List.mem_cons_self).isLower_of_isUpper (hcapitals d List.mem_cons_self)
    have hopens : opensWord (last :: pending) c (capitals ++ tail) = false := by
      rw [opensWord_ascii hlast hc hascii, hnext, hlast.isSmall_of_isUpper hupper]
      simp
    exact ⟨by simp [hc.isWordChar_eq, hcapital], hopens,
      ih hc hcapital hascii hcapitals fun _ => hdigit⟩

end

/-- Over ASCII, words are told by their shape. -/
theorem isWord_iff_isAsciiWord {cs : List Char} (hascii : ∀ c ∈ cs, IsAscii c) :
    IsWord cs ↔ cs ≠ [] ∧ IsAsciiWord cs := by
  refine and_congr_right fun hne => ⟨fun h => ?_, fun h => ?_⟩
  · obtain ⟨c, rest, rfl⟩ := List.exists_cons_of_ne_nil hne
    obtain ⟨hc, hrest⟩ := List.forall_mem_cons.1 hascii
    obtain ⟨hword, -, hcarries⟩ := h
    rw [hc.isWordChar_eq, Bool.or_eq_true] at hword
    rcases hword with hupper | hsmall
    · obtain ⟨capitals, tail, rfl, hcapitals, htail, hdigit⟩ :=
        exists_of_carriesOn_capital hc hupper hrest hcarries
      by_cases hmore : capitals = []
      · rw [hmore]
        exact .capitalized (some c) (by simpa using hupper) htail
      · refine .acronym (c :: capitals) ?_ ?_ (hdigit hmore) htail
        · simpa [Nat.one_le_iff_ne_zero] using hmore
        · exact List.forall_mem_cons.2 ⟨hupper, hcapitals⟩
    · have hrest := (carriesOn_small_iff hc hsmall hrest).1 hcarries
      exact .capitalized none (by simp) (List.forall_mem_cons.2 ⟨hsmall, hrest⟩)
  · cases h with
    | @capitalized capital tail hcapital htail =>
      cases capital with
      | some c =>
        obtain ⟨hc, hrest⟩ := List.forall_mem_cons.1 hascii
        have hupper := hcapital c rfl
        have hcarries : CarriesOn [c] ([] ++ tail) :=
          carriesOn_capitals hc hupper hrest (by simp) htail (by simp)
        exact ⟨by simp [hc.isWordChar_eq, hupper], rfl, hcarries⟩
      | none =>
        obtain ⟨c, rest, rfl⟩ := List.exists_cons_of_ne_nil hne
        obtain ⟨hc, hrest⟩ := List.forall_mem_cons.1 hascii
        obtain ⟨hsmall, htail⟩ := List.forall_mem_cons.1 htail
        exact ⟨by simp [hc.isWordChar_eq, hsmall], rfl,
          (carriesOn_small_iff hc hsmall hrest).2 htail⟩
    | @acronym capitals tail hlength hcapitals hdigit htail =>
      obtain ⟨c, capitals, rfl⟩ :=
        List.exists_cons_of_length_pos (Nat.lt_of_lt_of_le Nat.zero_lt_two hlength)
      obtain ⟨hc, hrest⟩ := List.forall_mem_cons.1 hascii
      obtain ⟨hupper, hcapitals⟩ := List.forall_mem_cons.1 hcapitals
      refine ⟨by simp [hc.isWordChar_eq, hupper], rfl, ?_⟩
      exact carriesOn_capitals hc hupper hrest hcapitals htail fun _ => hdigit

/-- The words of a key are its word characters, cut so that each word is its own only word and that
they are found again once underscores join them. Over ASCII they have the shapes of words, and a
text of one of these shapes is one word. -/
theorem words_normalForm (key : String) :
    (∀ word ∈ words key, word ≠ "" ∧ MadeOf (isWordChar ·) word ∧ words word = [word]) ∧
      (String.join (words key)).toList = key.toList.filter isWordChar ∧
      words ("_".intercalate (words key)) = words key ∧
      (MadeOf IsAscii key → (∀ word ∈ words key, IsAsciiWord word.toList) ∧
        (words key = [key] ↔ key ≠ "" ∧ IsAsciiWord key.toList)) := by
  refine ⟨fun word hword => ?_, ?_, ?_, fun hascii => ⟨fun word hword => ?_, ?_⟩⟩
  · have hisWord := isWord_of_mem_words hword
    refine ⟨?_, madeOf_of_mem_words (fun _ _ hc => hc) hword, words_eq_singleton_iff.2 hisWord⟩
    rintro rfl
    exact hisWord.1 rfl
  · rw [String.toList_join, flatten_words]
  · exact words_intercalate fun word => isWord_of_mem_words
  · have hmade : MadeOf IsAscii word := madeOf_of_mem_words (fun c hc _ => hascii c hc) hword
    exact ((isWord_iff_isAsciiWord hmade).1 (isWord_of_mem_words hword)).2
  · rw [words_eq_singleton_iff, isWord_iff_isAsciiWord hascii, ne_eq, ne_eq,
      String.toList_eq_nil_iff]

/-- The words of a key with an abbreviation, and those of the abbreviation alone. -/
theorem words_normalForm_productURLId :
    words "productURLId" = ["product", "URL", "Id"] ∧ MadeOf IsAscii "productURLId" ∧
      words "URL" = ["URL"] ∧ IsAsciiWord "URL".toList ∧
      words ("_".intercalate ["product", "URL", "Id"]) = ["product", "URL", "Id"] := by
  have hwords : words "productURLId" = ["product", "URL", "Id"] := by decide
  have hascii : MadeOf IsAscii "productURLId" := by decide
  obtain ⟨hmembers, -, hjoined, hshapes⟩ := words_normalForm "productURLId"
  rw [hwords] at hmembers hjoined hshapes
  exact ⟨hwords, hascii, (hmembers "URL" (by decide)).2.2, (hshapes hascii).1 "URL" (by decide),
    hjoined⟩

end PayloadModels.Naming
