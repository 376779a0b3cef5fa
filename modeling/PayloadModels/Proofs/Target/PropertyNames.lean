import PayloadModels.Proofs.Naming.Characters
import PayloadModels.Proofs.Text.Cutting
import PayloadModels.Target.Spelling

/-!
# The names of properties

What a target writes for the name of a property is an identifier in one of three spellings
(`Spelling`): plain, between backquotes, or behind a raw mark. `Target.Spells` says what makes the
spelling right. An identifier is spelled plainly exactly when it is no reserved word, and it is the
casing of the key, unless that is a word which no spelling makes fit and which therefore gets a
suffix. So it is for every key (`Target.exists_spells`), and all else about the names of properties
follows: which characters they have (`Target.mem_propertyName`), how the identifier is got back
(`Target.eq_bareName_rust`), and that a key over ASCII gives an identifier of the form that each
language asks for (`Target.exists_spells_isIdentifier`).
-/

namespace PayloadModels

open Naming

/-- How an identifier is written. -/
inductive Spelling where
  | plain
  | backquoted
  | raw
  deriving DecidableEq, Repr

/-- An identifier as it is written. -/
def Spelling.write : Spelling → String → String
  | plain, name => name
  | backquoted, name => "\x60" ++ name ++ "\x60"
  | raw, name => "r#" ++ name

namespace Target

/-! ## Taking the marks off -/

/-- A name without a hash has no raw mark. -/
theorem dropRawMarks_of_not_mem {cs : List Char} (h : '#' ∉ cs) : dropRawMarks cs = cs := by
  unfold dropRawMarks
  split
  · exact absurd (by simp) h
  · rfl

/-- A name without a backquote has none anywhere. -/
theorem isBackquote_eq_false {cs : List Char} (h : '\x60' ∉ cs) :
    ∀ c ∈ cs, isBackquote c = false := fun _ hc => decide_eq_false (ne_of_mem_of_not_mem hc h)

/-- A name without a backquote does not begin with one. -/
theorem dropWhile_isBackquote {cs : List Char} (h : '\x60' ∉ cs) :
    cs.dropWhile isBackquote = cs := Text.dropWhile_eq_self (isBackquote_eq_false h)

/-- A name without a backquote does not end with one. -/
theorem dropEndWhile_isBackquote {cs : List Char} (h : '\x60' ∉ cs) :
    Text.dropEndWhile isBackquote cs = cs := Text.dropEndWhile_eq_self (isBackquote_eq_false h)

/-- A raw mark is taken off again. -/
theorem dropRawMarks_raw {name : String} (h : IsNameText name) :
    dropRawMarks ("r#" ++ name).toList = name.toList := by
  have hmark : '#' ∉ name.toList := fun hmem => absurd (h _ hmem) (by decide)
  have hchars : ("r#" ++ name).toList = 'r' :: '#' :: name.toList := by simp
  rw [hchars, dropRawMarks, dropRawMarks_of_not_mem hmark]

/-- However a name is spelled, it is bare without its marks. -/
theorem bareName_write (spelling : Spelling) {name : String} (h : IsNameText name) :
    bareName (spelling.write name) = name := by
  have hquote : '\x60' ∉ name.toList := fun hmem => absurd (h _ hmem) (by decide)
  have hmark : '#' ∉ name.toList := fun hmem => absurd (h _ hmem) (by decide)
  have hplain : bareName name = name := by
    rw [bareName, dropRawMarks_of_not_mem hmark, dropWhile_isBackquote hquote,
      dropEndWhile_isBackquote hquote, String.ofList_toList]
  cases spelling with
  | plain => exact hplain
  | backquoted =>
    have hquoted : ("\x60" ++ name ++ "\x60").toList = '\x60' :: (name.toList ++ ['\x60']) := by
      simp
    have hstart : ('\x60' :: (name.toList ++ ['\x60'])).dropWhile isBackquote
        = if name.toList = [] then [] else name.toList ++ ['\x60'] := by
      show (name.toList ++ ['\x60']).dropWhile isBackquote = _
      rw [List.dropWhile_append, dropWhile_isBackquote hquote]
      cases name.toList <;> rfl
    have hend : Text.dropEndWhile isBackquote (name.toList ++ ['\x60']) = name.toList := by
      have hreverse : (name.toList ++ ['\x60']).reverse = '\x60' :: name.toList.reverse := by simp
      rw [Text.dropEndWhile, hreverse]
      show (name.toList.reverse.dropWhile isBackquote).reverse = _
      rw [dropWhile_isBackquote (by simpa using hquote), List.reverse_reverse]
    rw [Spelling.write, bareName, hquoted, dropRawMarks_of_not_mem (by simp [hmark]), hstart]
    split
    · next hempty => rw [← String.ofList_toList (s := name), hempty]; rfl
    · rw [hend, String.ofList_toList]
  | raw =>
    calc bareName ("r#" ++ name) = bareName name := by
          rw [bareName, bareName, dropRawMarks_raw h, dropRawMarks_of_not_mem hmark]
      _ = name := hplain

/-- A name that was put between backquotes, or not, is bare without them. -/
theorem bareName_backquoted (reserved : List String) {base : String} (h : IsNameText base) :
    bareName (backquoted reserved base) = base := by
  rw [backquoted]
  split
  · exact bareName_write .backquoted h
  · exact bareName_write .plain h

/-! ## The right spelling -/

/-- All words that the target reserves. -/
def reservedWords : Target → List String
  | swift => swiftReserved
  | kotlin => kotlinReserved
  | objcSource | objcHeader => objcReserved
  | rust => rustReserved ++ rustNeverRaw

/-- The casing of the target's properties. -/
def casing : Target → String → String
  | rust => snake
  | _ => lowerCamel

/-- The spelling that makes a reserved word fit to be a name, if the target has one. -/
def escape? : Target → Option Spelling
  | swift | kotlin => some .backquoted
  | objcSource | objcHeader => none
  | rust => some .raw

/-- What makes a reserved word another word, where the target has no spelling for it. -/
def suffix? : Target → Option String
  | swift | kotlin => none
  | objcSource | objcHeader => some "Value"
  | rust => some "_"

/-- Whether the property name of a key is right as the spelling of an identifier. -/
structure Spells (target : Target) (key name : String) (spelling : Spelling) : Prop where
  write_eq : target.propertyName key = spelling.write name
  allowed : spelling = .plain ∨ spelling ∈ target.escape?
  plain_iff : spelling = .plain ↔ name ∉ target.reservedWords
  not_raw : spelling = .raw → name ∉ rustNeverRaw
  name_eq : name = target.casing key ∨
    target.casing key ∈ target.reservedWords ∧
      ∃ suffix ∈ target.suffix?, name = target.casing key ++ suffix
  bareName_eq : bareName (target.propertyName key) = name
  withoutRawMark_eq : target = rust → withoutRawMark (target.propertyName key) = name

variable {target : Target} {key : String}

/-- A name that is no reserved word stands as it is. -/
theorem spells_plain {name : String} (hname : IsNameText name)
    (hplain : target.propertyName key = name) (hreserved : name ∉ target.reservedWords)
    (hcasing : name = target.casing key ∨ target.casing key ∈ target.reservedWords ∧
      ∃ suffix ∈ target.suffix?, name = target.casing key ++ suffix) :
    target.Spells key name .plain where
  write_eq := hplain
  allowed := .inl rfl
  plain_iff := iff_of_true rfl hreserved
  not_raw := nofun
  name_eq := hcasing
  bareName_eq := by
    rw [hplain]
    exact bareName_write .plain hname
  withoutRawMark_eq _ := by
    have hmark : '#' ∉ name.toList := fun hmem => absurd (hname _ hmem) (by decide)
    rw [hplain, withoutRawMark, dropRawMarks_of_not_mem hmark, String.ofList_toList]

/-- Between backquotes a reserved word is a name. -/
theorem exists_spells_backquoted (hcasing : target.casing = lowerCamel) (hrust : target ≠ rust)
    (hescape : target.escape? = some .backquoted)
    (hname : target.propertyName key = backquoted target.reservedWords (lowerCamel key)) :
    ∃ spelling, target.Spells key (lowerCamel key) spelling := by
  have hcamel : lowerCamel key = target.casing key := by rw [hcasing]
  by_cases hmem : lowerCamel key ∈ target.reservedWords
  · rw [backquoted, if_pos hmem] at hname
    have hread : bareName (target.propertyName key) = lowerCamel key := by
      rw [hname]
      exact bareName_write .backquoted (isNameText_lowerCamel key)
    exact ⟨.backquoted, hname, .inr hescape, by simp [hmem], fun h => absurd h (by decide),
      .inl hcamel, hread, fun h => absurd h hrust⟩
  · rw [backquoted, if_neg hmem] at hname
    exact ⟨.plain, spells_plain (isNameText_lowerCamel key) hname hmem (.inl hcamel)⟩

/-- With a suffix a reserved word of Objective-C is a name. -/
theorem exists_spells_objc (hcasing : target.casing key = lowerCamel key)
    (hreserved : target.reservedWords = objcReserved) (hsuffix : target.suffix? = some "Value")
    (hname : target.propertyName key = if lowerCamel key ∈ objcReserved
      then lowerCamel key ++ "Value" else lowerCamel key) :
    ∃ name spelling, target.Spells key name spelling := by
  have hcamel : IsNameText (lowerCamel key) := isNameText_lowerCamel key
  by_cases hmem : lowerCamel key ∈ objcReserved
  · have hother : ∀ word ∈ objcReserved, word ++ "Value" ∉ objcReserved := by decide
    rw [if_pos hmem] at hname
    refine ⟨_, _, spells_plain (hcamel.append (by decide)) hname ?_ (.inr ?_)⟩
    · rw [hreserved]
      exact hother _ hmem
    · rw [hreserved, hcasing]
      exact ⟨hmem, "Value", hsuffix, rfl⟩
  · rw [if_neg hmem] at hname
    exact ⟨_, _, spells_plain hcamel hname (by rwa [hreserved]) (.inl hcasing.symm)⟩

/-- Behind a raw mark a reserved word of Rust is a name, and with a suffix where it may not stand
behind one. -/
theorem exists_spells_rust (key : String) : ∃ name spelling, rust.Spells key name spelling := by
  have hsnake : IsNameText (snake key) := isNameText_snake key
  have hname : rust.propertyName key = if snake key ∈ rustNeverRaw then snake key ++ "_"
      else if snake key ∈ rustReserved then "r#" ++ snake key else snake key := rfl
  by_cases hnever : snake key ∈ rustNeverRaw
  · have hother : ∀ word ∈ rustNeverRaw, word ++ "_" ∉ rust.reservedWords := by decide
    rw [if_pos hnever] at hname
    exact ⟨_, _, spells_plain (hsnake.append (by decide)) hname (hother _ hnever)
      (.inr ⟨List.mem_append_right _ hnever, "_", rfl, rfl⟩)⟩
  · rw [if_neg hnever] at hname
    by_cases hmem : snake key ∈ rustReserved
    · rw [if_pos hmem] at hname
      refine ⟨snake key, .raw, hname, .inr rfl, ?_, fun _ => hnever, .inl rfl, ?_, fun _ => ?_⟩
      · exact iff_of_false nofun fun h => h (List.mem_append_left _ hmem)
      · rw [hname]
        exact bareName_write .raw hsnake
      · rw [hname, withoutRawMark, dropRawMarks_raw hsnake, String.ofList_toList]
    · rw [if_neg hmem] at hname
      have hreserved : snake key ∉ rust.reservedWords := fun h =>
        (List.mem_append.1 h).elim hmem hnever
      exact ⟨_, _, spells_plain hsnake hname hreserved (.inl rfl)⟩

/-- The property name of any key is the right spelling of some name. -/
theorem exists_spells (target : Target) (key : String) :
    ∃ name spelling, target.Spells key name spelling := by
  cases target with
  | swift | kotlin => exact ⟨_, exists_spells_backquoted rfl nofun rfl rfl⟩
  | objcSource | objcHeader => exact exists_spells_objc rfl rfl rfl rfl
  | rust => exact exists_spells_rust key

/-! ## What follows -/

/-- The casing of a key is made fit to be an identifier. -/
theorem exists_casing_eq (target : Target) (key : String) :
    ∃ name, target.casing key = identifier name := by
  cases target with
  | swift | kotlin | objcSource | objcHeader => exact exists_lowerCamel_eq key
  | rust => exact ⟨_, rfl⟩

/-- The casing of a target makes names. -/
theorem isNameText_casing (target : Target) (key : String) : IsNameText (target.casing key) := by
  cases target with
  | swift | kotlin | objcSource | objcHeader => exact isNameText_lowerCamel key
  | rust => exact isNameText_snake key

namespace Spells

variable {name : String} {spelling : Spelling} (h : target.Spells key name spelling)
include h

/-- An identifier is a name. -/
theorem isNameText : IsNameText name := by
  have hcasing : IsNameText (target.casing key) := isNameText_casing target key
  have hsuffix : ∀ suffix ∈ target.suffix?, IsNameText suffix := by cases target <;> decide
  rcases h.name_eq with rfl | ⟨-, suffix, hmem, rfl⟩
  · exact hcasing
  · exact hcasing.append (hsuffix suffix hmem)

/-- An identifier is not empty. -/
theorem ne_empty : name ≠ "" := by
  obtain ⟨base, hbase⟩ := exists_casing_eq target key
  have hcasing : target.casing key ≠ "" := hbase ▸ identifier_ne_empty base
  rcases h.name_eq with rfl | ⟨-, suffix, -, rfl⟩
  · exact hcasing
  · simp [hcasing]

end Spells

/-- A property name has only characters of names and the marks of escaped words. -/
theorem mem_propertyName {c : Char} (h : c ∈ (target.propertyName key).toList) :
    IsNameChar c ∨ c = '\x60' ∨ c = '#' := by
  obtain ⟨name, spelling, hspells⟩ := exists_spells target key
  have hname : IsNameText name := hspells.isNameText
  rw [hspells.write_eq] at h
  cases spelling with
  | plain => exact .inl (hname c h)
  | backquoted =>
    simp only [Spelling.write, String.toList_append, List.mem_append] at h
    rcases h with (h | h) | h
    · exact .inr (.inl (List.mem_singleton.1 h))
    · exact .inl (hname c h)
    · exact .inr (.inl (List.mem_singleton.1 h))
  | raw =>
    simp only [Spelling.write, String.toList_append, List.mem_append] at h
    rcases h with h | h
    · rw [show "r#".toList = ['r', '#'] from rfl, List.mem_pair] at h
      rcases h with rfl | rfl
      · exact .inl (by decide)
      · exact .inr (.inr rfl)
    · exact .inl (hname c h)

/-- A property's name has only characters of names, and those that spell a reserved word. -/
theorem not_mem_propertyName {c : Char} (h : ¬ (IsNameChar c ∨ c = '\x60' ∨ c = '#'))
    (target : Target) (key : String) : c ∉ (target.propertyName key).toList := mt mem_propertyName h

/-- A property name has no blanks. -/
theorem isBlank_of_mem_propertyName {c : Char} (h : c ∈ (target.propertyName key).toList) :
    Unicode.isBlank c = false := by
  rcases mem_propertyName h with hname | rfl | rfl
  · exact hname.2
  · decide
  · decide

/-- No property's name is empty. -/
theorem propertyName_ne_empty (target : Target) (key : String) : target.propertyName key ≠ "" := by
  obtain ⟨name, spelling, hspells⟩ := exists_spells target key
  have hname : name ≠ "" := hspells.ne_empty
  rw [hspells.write_eq]
  cases spelling <;> simp [Spelling.write, hname]

/-- A name in Rust has its raw mark exactly when it is reserved without it. -/
theorem eq_bareName_rust (key : String) :
    let bare := bareName (rust.propertyName key)
    rust.propertyName key = if bare ∈ rustReserved then "r#" ++ bare else bare := by
  obtain ⟨name, spelling, hspells⟩ := exists_spells rust key
  intro bare
  have hbare : bare = name := hspells.bareName_eq
  rw [hbare, hspells.write_eq]
  cases spelling with
  | plain =>
    have hreserved : name ∉ rust.reservedWords := hspells.plain_iff.1 rfl
    rw [if_neg fun hmem => hreserved (List.mem_append_left _ hmem), Spelling.write]
  | backquoted => exact absurd hspells.allowed (by decide)
  | raw =>
    have hreserved : name ∈ rust.reservedWords := by
      by_contra hmem
      cases hspells.plain_iff.2 hmem
    rw [if_pos ((List.mem_append.1 hreserved).resolve_right (hspells.not_raw rfl)), Spelling.write]

/-- A name in Rust has one raw mark at most. -/
theorem withoutRawMark_propertyName (key : String) :
    withoutRawMark (rust.propertyName key) = String.ofList
      ((Text.after? "r#" (rust.propertyName key).toList).getD (rust.propertyName key).toList) := by
  obtain ⟨name, spelling, hspells⟩ := exists_spells rust key
  rw [hspells.withoutRawMark_eq rfl, hspells.write_eq]
  cases spelling with
  | plain =>
    have hmark : '#' ∉ name.toList := fun hmem => absurd (hspells.isNameText _ hmem) (by decide)
    have hnone : Text.after? "r#" name.toList = none :=
      Text.after?_eq_none fun hbegins => hmark (hbegins.subset (by decide))
    rw [Spelling.write, hnone, Option.getD_none, String.ofList_toList]
  | backquoted => exact absurd hspells.allowed (by decide)
  | raw =>
    have hafter : Text.after? "r#" ("r#" ++ name).toList = some name.toList := by
      rw [String.toList_append, Text.after?_append]
    rw [Spelling.write, hafter, Option.getD_some, String.ofList_toList]

/-! ## Keys over ASCII -/

/-- A key over ASCII gets a property name that is the right spelling of an identifier. -/
theorem exists_spells_isIdentifier (target : Target) {key : String} (h : MadeOf IsAscii key) :
    ∃ name spelling, isIdentifier name ∧ target.Spells key name spelling := by
  obtain ⟨name, spelling, hspells⟩ := exists_spells target key
  have hcasing : isIdentifier (target.casing key) := by
    cases target with
    | swift | kotlin | objcSource | objcHeader => exact isIdentifier_lowerCamel h
    | rust => exact isIdentifier_snake h
  have hsuffix : ∀ suffix ∈ target.suffix?,
      suffix.toList.all fun c => c.isAlphanum || c = '_' := by
    cases target <;> decide
  refine ⟨name, spelling, ?_, hspells⟩
  rcases hspells.name_eq with rfl | ⟨-, suffix, hmem, rfl⟩
  · exact hcasing
  · exact isIdentifier_append hcasing (hsuffix suffix hmem)

/-- A word that Swift puts between backquotes, one that Objective-C gives a suffix, and one that
Rust cannot keep even as a raw name. -/
theorem exists_spells_isIdentifier_words :
    (MadeOf IsAscii "default" ∧ MadeOf IsAscii "debug-description" ∧ MadeOf IsAscii "Self") ∧
      (∃ name spelling, isIdentifier name ∧ swift.Spells "default" name spelling) ∧
      (∃ name spelling,
        isIdentifier name ∧ objcHeader.Spells "debug-description" name spelling) ∧
      ∃ name spelling, isIdentifier name ∧ rust.Spells "Self" name spelling := by
  have hascii : MadeOf IsAscii "default" ∧ MadeOf IsAscii "debug-description" ∧
      MadeOf IsAscii "Self" := by decide
  obtain ⟨hdefault, hdescription, hself⟩ := hascii
  exact ⟨⟨hdefault, hdescription, hself⟩, exists_spells_isIdentifier swift hdefault,
    exists_spells_isIdentifier objcHeader hdescription, exists_spells_isIdentifier rust hself⟩

end Target

end PayloadModels
