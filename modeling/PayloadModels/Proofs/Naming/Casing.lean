import PayloadModels.Naming

/-!
# What names are made of

A name is made from a key by cutting the key into words and changing the case of their characters.
The words of a key hold its word characters, all of them and in their order (`flatten_words`). So
characters of a kind that changing case does not leave (`KeptByCasing`) are kept by each casing: a
name is made of them when the word characters of its key are of this kind (`KeptByCasing.snake`).
-/

namespace PayloadModels.Naming

open Unicode

/-! ## Words -/

/-- A pending word is finished as it is. -/
theorem flatten_finished (pending : List Char) : (finished pending).flatten = pending.reverse := by
  unfold finished
  split
  · next hempty => simp [List.isEmpty_iff.1 hempty]
  · simp

/-- The words of a text are made of its word characters, none left out. -/
theorem flatten_wordsFrom (pending cs : List Char) :
    (wordsFrom pending cs).flatten = pending.reverse ++ cs.filter isWordChar := by
  fun_induction wordsFrom pending cs with
  | case1 pending => rw [flatten_finished, List.filter_nil, List.append_nil]
  | case2 pending c rest hc ih =>
    rw [List.flatten_append, flatten_finished, ih, List.filter_cons_of_neg (by simpa using hc)]
    rfl
  | case3 pending c rest hc hopens ih =>
    rw [List.flatten_cons, ih, List.filter_cons_of_pos (by simpa using hc)]
    rfl
  | case4 pending c rest hc hopens ih =>
    rw [ih, List.filter_cons_of_pos (by simpa using hc), List.reverse_cons, List.append_assoc]
    rfl

/-- The words of a key are its word characters, in their order. -/
theorem flatten_words (key : String) :
    (words key).flatMap String.toList = key.toList.filter isWordChar := by
  have hchars : (wordsFrom [] key.toList).flatMap (fun cs => (String.ofList cs).toList)
      = (wordsFrom [] key.toList).flatten := by
    simp only [String.toList_ofList, List.flatMap_id']
  rw [words, List.flatMap_map, hchars, flatten_wordsFrom]
  rfl

/-! ## Kinds of characters -/

/-- The text has only characters of a kind. -/
def MadeOf (p : Char → Prop) (text : String) : Prop := ∀ c ∈ text.toList, p c

instance (p : Char → Prop) [DecidablePred p] (text : String) : Decidable (MadeOf p text) :=
  List.decidableBAll p text.toList

section
variable {p : Char → Prop}

/-- Two texts of a kind are one when they are joined. -/
theorem MadeOf.append {a b : String} (ha : MadeOf p a) (hb : MadeOf p b) : MadeOf p (a ++ b) := by
  intro c hc
  rw [String.toList_append, List.mem_append] at hc
  exact hc.elim (ha c) (hb c)

/-- Texts of a kind are one when they are joined by a separator of the kind. -/
theorem MadeOf.intercalate {sep : String} {texts : List String} (hsep : MadeOf p sep)
    (h : ∀ text ∈ texts, MadeOf p text) : MadeOf p (sep.intercalate texts) := by
  induction texts with
  | nil => simp [MadeOf]
  | cons text texts ih =>
    obtain ⟨htext, htexts⟩ := List.forall_mem_cons.1 h
    cases texts with
    | nil => simpa using htext
    | cons next texts =>
      rw [String.intercalate_cons_cons]
      exact (htext.append hsep).append (ih htexts)

/-- Several texts of a kind are one when they are joined. -/
theorem MadeOf.join {texts : List String} (h : ∀ text ∈ texts, MadeOf p text) :
    MadeOf p (String.join texts) := by
  intro c hc
  rw [String.toList_join, List.mem_flatMap] at hc
  obtain ⟨text, htext, hc⟩ := hc
  exact h text htext c hc

/-- A word is made of what the word characters of its key are. -/
theorem madeOf_of_mem_words {key word : String}
    (hkey : ∀ c ∈ key.toList, isWordChar c → p c) (h : word ∈ words key) : MadeOf p word := by
  intro c hc
  have hmem : c ∈ key.toList.filter isWordChar :=
    flatten_words key ▸ List.mem_flatMap.2 ⟨word, h, hc⟩
  obtain ⟨hc, hword⟩ := List.mem_filter.1 hmem
  exact hkey c hc hword

/-- A kind of characters that changing case does not leave, and that has what identifiers are filled
up with. -/
structure KeptByCasing (p : Char → Prop) : Prop where
  lower : ∀ {c d}, p c → d ∈ lower c → p d
  upper : ∀ {c d}, p c → d ∈ upper c → p d
  sigma : ∀ {before after}, p 'Σ' → p (lowerSigma before after)
  filling : MadeOf p "_value"

namespace KeptByCasing

variable (hp : KeptByCasing p)
include hp

/-- Lower-casing a text inside another one keeps it of the kind. -/
theorem lowercaseAfter {before cs : List Char} (h : ∀ c ∈ cs, p c) :
    ∀ d ∈ lowercaseAfter before cs, p d := by
  induction cs generalizing before with
  | nil => simp [Unicode.lowercaseAfter]
  | cons c cs ih =>
    obtain ⟨hc, hcs⟩ := List.forall_mem_cons.1 h
    intro d hd
    rw [Unicode.lowercaseAfter, List.mem_append] at hd
    rcases hd with hd | hd
    · split at hd
      · next hsigma =>
        rw [List.mem_singleton.1 hd]
        exact hp.sigma (hsigma ▸ hc)
      · exact hp.lower hc hd
    · exact ih hcs d hd

/-- Lower-casing keeps a text of the kind. -/
theorem lowercase {text : String} (h : MadeOf p text) : MadeOf p (lowercase text) := by
  intro c hc
  rw [Unicode.lowercase, String.toList_ofList] at hc
  exact hp.lowercaseAfter h c hc

/-- Capitalizing keeps a word of the kind. -/
theorem capitalize {word : String} (h : MadeOf p word) : MadeOf p (capitalize word) := by
  rw [Naming.capitalize]
  split
  · simp [MadeOf]
  · next first rest hword =>
    rw [MadeOf, hword] at h
    obtain ⟨hfirst, hrest⟩ := List.forall_mem_cons.1 h
    intro c hc
    rw [String.toList_ofList, List.mem_append] at hc
    exact hc.elim (hp.upper hfirst) (hrest c)

/-- Making a name fit to be an identifier keeps it of the kind. -/
theorem identifier {name : String} (h : MadeOf p name) : MadeOf p (identifier name) := by
  rw [Naming.identifier]
  split
  · exact fun c hc => hp.filling c (List.mem_cons_of_mem _ hc)
  · split
    · refine MadeOf.append (fun c hc => ?_) h
      rw [List.mem_singleton.1 hc]
      exact hp.filling '_' List.mem_cons_self
    · exact h

/-- Words of the kind are of the kind when they are capitalized and joined. -/
theorem joinCapitalized {ws : List String} (h : ∀ word ∈ ws, MadeOf p word) :
    MadeOf p (joinCapitalized ws) := by
  refine MadeOf.join fun text htext => ?_
  obtain ⟨word, hword, rfl⟩ := List.mem_map.1 htext
  exact hp.capitalize (h word hword)

variable {key : String} (hkey : ∀ c ∈ key.toList, isWordChar c → p c)
include hkey

/-- A name in snake case is made of what its key is made of. -/
theorem snake : MadeOf p (snake key) := by
  have hsep : MadeOf p "_" := fun c hc => hp.filling c (List.mem_append_left _ hc)
  refine hp.identifier (hsep.intercalate fun text htext => ?_)
  obtain ⟨word, hword, rfl⟩ := List.mem_map.1 htext
  exact hp.lowercase (madeOf_of_mem_words hkey hword)

/-- A name in upper camel case is made of what its key is made of. -/
theorem upperCamel : MadeOf p (upperCamel key) :=
  hp.identifier (hp.joinCapitalized fun _ => madeOf_of_mem_words hkey)

/-- A name in lower camel case is made of what its key is made of. -/
theorem lowerCamel : MadeOf p (lowerCamel key) := by
  rw [Naming.lowerCamel]
  split
  · exact hp.identifier (by simp [MadeOf])
  · next first others hwords =>
    have hall : ∀ word ∈ first :: others, MadeOf p word := fun word hword =>
      madeOf_of_mem_words hkey (hwords ▸ hword)
    obtain ⟨hfirst, hothers⟩ := List.forall_mem_cons.1 hall
    exact hp.identifier ((hp.lowercase hfirst).append (hp.joinCapitalized hothers))

end KeptByCasing

end

/-! ## Identifiers -/

/-- An identifier is never empty. -/
theorem identifier_ne_empty (name : String) : identifier name ≠ "" := by
  rw [identifier]
  split
  · decide
  · next hname =>
    split
    · simp
    · rintro rfl
      simp at hname

/-- An identifier does not begin with a digit. -/
theorem exists_identifier_eq (name : String) :
    ∃ c cs, (identifier name).toList = c :: cs ∧ c.isDigit = false := by
  rw [identifier]
  split
  · exact ⟨'v', "alue".toList, rfl, rfl⟩
  · next c cs hname =>
    split
    · exact ⟨'_', name.toList, by simp, rfl⟩
    · next hc => exact ⟨c, cs, hname, Bool.eq_false_iff.2 hc⟩

/-- A name in lower camel case is made fit to be an identifier, with words or without. -/
theorem exists_lowerCamel_eq (key : String) : ∃ name, lowerCamel key = identifier name := by
  rw [lowerCamel]
  split
  · exact ⟨"", rfl⟩
  · next first others _ => exact ⟨lowercase first ++ joinCapitalized others, rfl⟩

end PayloadModels.Naming
