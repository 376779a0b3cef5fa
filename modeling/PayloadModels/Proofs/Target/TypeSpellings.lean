import Mathlib.Data.List.Nodup
import PayloadModels.Proofs.Naming.Capitals
import PayloadModels.Target.Spelling

/-!
# What the spelling of a type tells

A model is spelled by its name, a list between brackets that are in no name, and a plain type by a
name of its own (`PropertyType.IsStyle`). So brackets tell lists from all else, and all that the
spelling of a type does not tell is whether a name is that of a model or of a plain type: two types
are spelled alike exactly when they are the same, once each model with the name of a plain type is
read as this type (`PropertyType.IsStyle.eq_iff_readBack_eq`). In Swift, Kotlin and Rust keys give
such names to models (`Target.typeName_eq_iff`). Messages keep all types apart, since there the
names of plain types begin with small letters (`PropertyType.describe_inj`).
-/

namespace PayloadModels

open Naming

namespace PropertyType

/-- The types that are neither models nor lists. -/
def plainTypes : List PropertyType := [.bool, .int, .double, .string]

/-- A type of values that are not `null`, where keys name the models. -/
inductive IsConcrete : PropertyType → Prop where
  | plain {type : PropertyType} (h : type ∈ plainTypes) : IsConcrete type
  | object (key : String) : IsConcrete (.object (upperCamel key))
  | array {element : PropertyType} (h : IsConcrete element) : IsConcrete (.array element)

/-- A way of spelling types. -/
structure IsStyle (spell : PropertyType → String) : Prop where
  object_eq : ∀ model, spell (.object model) = model
  array_eq : ∃ opens closes : String, ¬ IsNameText opens ∧
    ∀ element, spell (.array element) = opens ++ spell element ++ closes
  isNameText : ∀ type ∈ plainTypes, IsNameText (spell type)
  nodup : (plainTypes.map spell).Nodup

/-- The plain type that is spelled as a name, if there is one. -/
def builtIn? (spell : PropertyType → String) (name : String) : Option PropertyType :=
  plainTypes.find? (spell · = name)

/-- What the spelling of a type is read as: a name that is that of a plain type is read as the plain
type. -/
def readBack (spell : PropertyType → String) : PropertyType → PropertyType
  | .object model => (builtIn? spell model).getD (.object model)
  | .array element => .array (readBack spell element)
  | type => type

/-- A name is that of no plain type when no plain type is spelled so. -/
theorem builtIn?_eq_none_iff {spell : PropertyType → String} {name : String} :
    builtIn? spell name = none ↔ name ∉ plainTypes.map spell := by
  simp [builtIn?]

/-- The plain type that is found for a name is spelled so. -/
theorem spell_of_builtIn? {spell : PropertyType → String} {name : String} {type : PropertyType}
    (h : builtIn? spell name = some type) : spell type = name := by
  simpa using List.find?_some h

/-- A type is read as it is when no model in it has the name of a plain type. -/
theorem readBack_eq_self {spell : PropertyType → String} {type : PropertyType}
    (h : ∀ model ∈ type.modelName?, model ∉ plainTypes.map spell) : readBack spell type = type := by
  induction type with
  | object model => rw [readBack, builtIn?_eq_none_iff.2 (h model rfl)]; rfl
  | array element ih => rw [readBack, ih h]
  | _ => rfl

/-- The spelling of a type is a name, which tells what the type is read as. -/
def IsNamed (spell : PropertyType → String) (type : PropertyType) : Prop :=
  IsNameText (spell type) ∧
    readBack spell type = (builtIn? spell (spell type)).getD (.object (spell type))

namespace IsStyle

variable {spell : PropertyType → String} (hs : IsStyle spell)
include hs

/-- A plain type is found by its spelling. -/
theorem builtIn?_spell {type : PropertyType} (h : type ∈ plainTypes) :
    builtIn? spell (spell type) = some type := by
  have hsome : (builtIn? spell (spell type)).isSome :=
    List.find?_isSome.2 ⟨type, h, decide_eq_true rfl⟩
  obtain ⟨found, hfound⟩ := Option.isSome_iff_exists.1 hsome
  rw [hfound, List.inj_on_of_nodup_map hs.nodup (List.mem_of_find?_eq_some hfound) h
    (spell_of_builtIn? hfound)]

/-- A plain type is spelled by a name and read as itself. -/
theorem isNamed_plain {type : PropertyType} (h : type ∈ plainTypes) : IsNamed spell type := by
  have hplain : ∀ type ∈ plainTypes, readBack spell type = type := by simp [plainTypes, readBack]
  refine ⟨hs.isNameText type h, ?_⟩
  rw [hplain type h, hs.builtIn?_spell h]
  rfl

/-- A model is spelled by its name, which may be read as a plain type. -/
theorem isNamed_object (key : String) : IsNamed spell (.object (upperCamel key)) := by
  rw [IsNamed, hs.object_eq]
  exact ⟨isNameText_upperCamel key, rfl⟩

/-- The spelling of a list is no name. -/
theorem not_isNameText_array (element : PropertyType) : ¬ IsNameText (spell (.array element)) := by
  obtain ⟨opens, closes, hopens, harray⟩ := hs.array_eq
  intro h
  refine hopens fun c hc => h c ?_
  rw [harray, String.toList_append, String.toList_append]
  exact List.mem_append_left _ (List.mem_append_left _ hc)

/-- Lists that are spelled alike have elements that are spelled alike. -/
theorem spell_eq_of_array {a b : PropertyType} (h : spell (.array a) = spell (.array b)) :
    spell a = spell b := by
  obtain ⟨opens, closes, -, harray⟩ := hs.array_eq
  rw [harray, harray] at h
  have hchars := congrArg String.toList h
  simp only [String.toList_append, List.append_cancel_right_eq,
    List.append_cancel_left_eq] at hchars
  exact String.toList_inj.1 hchars

/-- What a type is read as is spelled as the type is. -/
theorem spell_readBack (type : PropertyType) : spell (readBack spell type) = spell type := by
  obtain ⟨opens, closes, -, harray⟩ := hs.array_eq
  induction type with
  | object model =>
    rw [readBack]
    cases h : builtIn? spell model with
    | none => rfl
    | some type => exact (spell_of_builtIn? h).trans (hs.object_eq model).symm
  | array element ih => rw [readBack, harray, harray, ih]
  | _ => rfl

/-- What is spelled as a type with a name is read as the type is. -/
theorem readBack_eq_of_isNamed {a b : PropertyType} (ha : IsNamed spell a) (hb : b.IsConcrete)
    (h : spell a = spell b) : readBack spell a = readBack spell b := by
  cases hb with
  | plain hplain => rw [ha.2, (hs.isNamed_plain hplain).2, h]
  | object key => rw [ha.2, (hs.isNamed_object key).2, h]
  | array => exact absurd (h ▸ ha.1) (hs.not_isNameText_array _)

/-- Two types are spelled alike exactly when they are read alike. -/
theorem eq_iff_readBack_eq {a b : PropertyType} (ha : a.IsConcrete) (hb : b.IsConcrete) :
    spell a = spell b ↔ readBack spell a = readBack spell b := by
  constructor
  · intro h
    induction ha generalizing b with
    | plain hplain => exact hs.readBack_eq_of_isNamed (hs.isNamed_plain hplain) hb h
    | object key => exact hs.readBack_eq_of_isNamed (hs.isNamed_object key) hb h
    | array ha ih =>
      cases hb with
      | plain hplain =>
        exact absurd (h ▸ (hs.isNamed_plain hplain).1) (hs.not_isNameText_array _)
      | object key => exact absurd (h ▸ (hs.isNamed_object key).1) (hs.not_isNameText_array _)
      | array hb => rw [readBack, readBack, ih hb (hs.spell_eq_of_array h)]
  · intro h
    rw [← hs.spell_readBack a, h, hs.spell_readBack b]

/-- Types that mention no model with the name of a plain type are told apart. -/
theorem eq_of_spell_eq {a b : PropertyType} (ha : a.IsConcrete) (hb : b.IsConcrete)
    (hmodels : ∀ model, model ∈ a.modelName? ∨ model ∈ b.modelName? →
      model ∉ plainTypes.map spell) (h : spell a = spell b) : a = b := by
  have hread := (hs.eq_iff_readBack_eq ha hb).1 h
  rwa [readBack_eq_self fun model hmodel => hmodels model (.inl hmodel),
    readBack_eq_self fun model hmodel => hmodels model (.inr hmodel)] at hread

end IsStyle

/-! ## Messages -/

/-- Messages spell types in a style. -/
theorem isStyle_describe : IsStyle describe where
  object_eq _ := rfl
  array_eq := ⟨"[", "]", by decide, fun _ => rfl⟩
  isNameText := by decide
  nodup := by decide

/-- A key names no model like a type whose name begins with a small letter. -/
theorem upperCamel_not_mem_of_beginsSmall {names : List String}
    (h : ∀ name ∈ names, beginsSmall name ∧ name ≠ "value") (key : String) :
    upperCamel key ∉ names := by
  intro hmem
  obtain ⟨hsmall, hvalue⟩ := h _ hmem
  exact hvalue (eq_value_of_beginsSmall_upperCamel hsmall)

/-- A model that a concrete type mentions is named by a key. -/
theorem IsConcrete.exists_key {type : PropertyType} (h : type.IsConcrete) :
    ∀ model ∈ type.modelName?, ∃ key, model = upperCamel key := by
  induction h with
  | plain h =>
    have hplain : ∀ type ∈ plainTypes, type.modelName? = none := by decide
    rw [hplain _ h]
    exact nofun
  | object key =>
    rintro model ⟨⟩
    exact ⟨key, rfl⟩
  | array _ ih => exact ih

/-- Messages write different types differently. -/
theorem describe_inj {a b : PropertyType} (ha : a.IsConcrete) (hb : b.IsConcrete)
    (h : a.describe = b.describe) : a = b := by
  refine isStyle_describe.eq_of_spell_eq ha hb (fun model hmodel => ?_) h
  obtain ⟨key, rfl⟩ := hmodel.elim (ha.exists_key model) (hb.exists_key model)
  exact upperCamel_not_mem_of_beginsSmall (by decide) key

end PropertyType

/-! ## Targets -/

namespace Target

open PropertyType

/-- The names of plain types that begin with a capital, as the names of models do. -/
def capitalTypes (target : Target) : List String :=
  (plainTypes.map target.typeName).filter (!beginsSmall ·)

example : swift.capitalTypes = ["Bool", "Int", "Double", "String"] := by decide

example : kotlin.capitalTypes = ["Boolean", "Int", "Double", "String"] := by decide

example : rust.capitalTypes = ["String"] := by decide

/-- Whether the target spells a model by its name alone. -/
def SpellsByName (target : Target) : Prop := target = swift ∨ target = kotlin ∨ target = rust

variable {target : Target}

/-- The targets that spell models by their names spell types in a style. -/
theorem isStyle_typeName (h : target.SpellsByName) : IsStyle target.typeName := by
  rcases h with rfl | rfl | rfl
  · exact ⟨fun _ => rfl, ⟨"[", "]", by decide, fun _ => rfl⟩, by decide, by decide⟩
  · exact ⟨fun _ => rfl, ⟨"List<", ">", by decide, fun _ => rfl⟩, by decide, by decide⟩
  · exact ⟨fun _ => rfl, ⟨"Vec<", ">", by decide, fun _ => rfl⟩, by decide, by decide⟩

/-- A key gives a model no name of a plain type that begins with a small letter. -/
theorem mem_capitalTypes_of_upperCamel (h : target.SpellsByName) {key : String}
    (hmem : upperCamel key ∈ plainTypes.map target.typeName) :
    upperCamel key ∈ target.capitalTypes := by
  have hvalue : "value" ∉ plainTypes.map target.typeName := by
    rcases h with rfl | rfl | rfl <;> decide
  refine List.mem_filter.2 ⟨hmem, ?_⟩
  by_cases hsmall : beginsSmall (upperCamel key)
  · exact absurd (eq_value_of_beginsSmall_upperCamel hsmall ▸ hmem) hvalue
  · simpa using hsmall

/-- Two types are spelled alike exactly when they are the same once models with the names of plain
types are read as these; so types that mention no such model are told apart. Messages tell all
types apart. -/
theorem typeName_eq_iff (htarget : target.SpellsByName) {a b : PropertyType} (ha : a.IsConcrete)
    (hb : b.IsConcrete) :
    (target.typeName a = target.typeName b ↔
        readBack target.typeName a = readBack target.typeName b) ∧
      ((∀ model, model ∈ a.modelName? ∨ model ∈ b.modelName? → model ∉ target.capitalTypes) →
        target.typeName a = target.typeName b → a = b) ∧
      (a.describe = b.describe → a = b) := by
  have hs := isStyle_typeName htarget
  refine ⟨hs.eq_iff_readBack_eq ha hb, fun hmodels => ?_, describe_inj ha hb⟩
  refine hs.eq_of_spell_eq ha hb fun model hmodel hmem => hmodels model hmodel ?_
  obtain ⟨key, rfl⟩ := hmodel.elim (ha.exists_key model) (hb.exists_key model)
  exact mem_capitalTypes_of_upperCamel htarget hmem

/-- Lists of texts and lists of the models behind a key `string`: Swift spells them alike, messages
do not. -/
theorem typeName_eq_iff_string :
    let texts : PropertyType := .array .string
    let models : PropertyType := .array (.object (upperCamel "string"))
    swift.SpellsByName ∧ texts.IsConcrete ∧ models.IsConcrete ∧
      swift.typeName texts = swift.typeName models ∧ texts.describe ≠ models.describe := by
  intro texts models
  have hswift : swift.SpellsByName := .inl rfl
  have htexts : texts.IsConcrete := .array (.plain (by decide))
  have hmodels : models.IsConcrete := .array (.object "string")
  obtain ⟨hiff, -, hdescribe⟩ := typeName_eq_iff hswift htexts hmodels
  have hread : readBack swift.typeName texts = readBack swift.typeName models := by decide
  have hne : texts ≠ models := by simp [texts, models]
  exact ⟨hswift, htexts, hmodels, hiff.2 hread, mt hdescribe hne⟩

/-- The model behind the key `string` is spelled as the type of texts. -/
theorem not_typeName_inj :
    ¬ ∀ target : Target, target.SpellsByName → ∀ a b : PropertyType, a.IsConcrete → b.IsConcrete →
      target.typeName a = target.typeName b → a = b := by
  intro h
  have hstring : upperCamel "string" = "String" := by decide
  have hplain : IsConcrete .string := .plain (by decide)
  cases h swift (.inl rfl) _ _ (.object "string") hplain hstring

end Target

end PayloadModels
