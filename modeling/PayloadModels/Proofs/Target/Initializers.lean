import PayloadModels.Proofs.Target.Declarations
import PayloadModels.Proofs.Target.Escapes

/-!
# The models that an Objective-C initializer makes

The header of a model spells the type of each property with all the arrays that are around the
mentioned model (`Target.objcType_of_modelName?`). The initializer goes less deep: it makes the
models of a property that is a model or lists models, and where models stand in lists of lists, it
stores the dictionaries of the payload in their place (`Target.makes_propertyText_iff`). What a
payload key holds is no code, wherever it is shown: the quotes around it tell it apart
(`Literal.code`).
-/

namespace PayloadModels

open Naming

namespace PropertyType

/-- The number of arrays around what a type mentions. -/
def depth : PropertyType → Nat
  | array element => depth element + 1
  | _ => 0

variable {type : PropertyType} {model : String}

/-- A type that mentions a model is not one of scalars. -/
theorem isScalar_of_modelName? (h : type.modelName? = some model) : type.isScalar = false := by
  cases type with
  | bool | int | double => cases h
  | unknown | string | object _ | array _ => rfl

/-- Under one array at most, a type that mentions a model is the model or a list of it. -/
theorem eq_of_depth_le_one (h : type.modelName? = some model) (hdepth : type.depth ≤ 1) :
    type = object model ∨ type = array (object model) := by
  cases type with
  | object _ => exact .inl (congrArg object (Option.some.inj h))
  | array element =>
    cases element with
    | object _ => exact .inr (congrArg (array ∘ object) (Option.some.inj h))
    | array _ => exact absurd (Nat.le_of_succ_le_succ hdepth) (Nat.not_succ_le_zero _)
    | unknown | bool | int | double | string => cases h
  | unknown | bool | int | double | string => cases h

/-- Under two arrays or more, a type is a list of lists. -/
theorem exists_eq_of_one_lt_depth (h : 1 < type.depth) :
    ∃ element, type = array (array element) := by
  cases type with
  | array element =>
    cases element with
    | array element => exact ⟨element, rfl⟩
    | unknown | bool | int | double | string | object _ => exact absurd h (Nat.lt_irrefl 1)
  | unknown | bool | int | double | string | object _ => exact absurd h (Nat.not_lt_zero 1)

end PropertyType

namespace Literal

/-- The characters of a text that stand outside its double-quoted literals; `quoted` says whether
the text begins inside one. -/
def code : (quoted : Bool) → List Char → List Char
  | _, [] => []
  | true, '\\' :: _ :: rest => code true rest
  | true, '"' :: rest => code false rest
  | true, _ :: rest => code true rest
  | false, '"' :: rest => code true rest
  | false, c :: rest => c :: code false rest

/-- Behind a literal that can be read, the code goes on. -/
theorem code_of_read? {dollars : Bool} {cs text rest : List Char}
    (h : read? dollars cs = some (text, rest)) : code true cs = code false rest := by
  fun_induction read? dollars cs generalizing text with
  | case1 | case3 | case6 => cases h
  | case2 =>
    obtain ⟨-, rfl⟩ := Prod.mk.inj (Option.some.inj h)
    rfl
  | case4 c cs ih =>
    obtain ⟨_, -, hmap⟩ := Option.bind_eq_some_iff.1 h
    obtain ⟨⟨said, _⟩, hread, hpair⟩ := Option.map_eq_some_iff.1 hmap
    obtain ⟨-, rfl⟩ := Prod.mk.inj hpair
    exact ih hread
  | case5 c cs hquote hlast hbackslash _ ih =>
    obtain ⟨⟨said, _⟩, hread, hpair⟩ := Option.map_eq_some_iff.1 h
    obtain ⟨-, rfl⟩ := Prod.mk.inj hpair
    rw [← ih hread, code]
    · exact hbackslash
    · exact hquote

/-- Code without quotes is kept. -/
theorem code_append {cs : List Char} (h : '"' ∉ cs) (rest : List Char) :
    code false (cs ++ rest) = cs ++ code false rest := by
  induction cs with
  | nil => rfl
  | cons c cs ih =>
    obtain ⟨hc, hcs⟩ := List.ne_and_not_mem_of_not_mem_cons h
    rw [List.cons_append, code, ih hcs, List.cons_append]
    exact hc.symm

/-- A quoted key has no code in it. -/
theorem code_quote_append (key : String) (rest : List Char) :
    code false ((quote key).toList ++ rest) = code false rest := by
  have hquote : (quote key).toList ++ rest = '"' :: ((escape key).toList ++ '"' :: rest) := by
    simp [quote]
  rw [hquote, code, code_of_read? (read?_escape key rest)]

end Literal

namespace Target

variable {property : Property} {model : String}

/-- The header spells the type of a property with all arrays around the model that it mentions. -/
theorem objcType_of_modelName? {type : PropertyType} (h : type.modelName? = some model) :
    objcType type
      = (fun element => "NSArray<" ++ element ++ "> *")^[type.depth] (model ++ " *") := by
  induction type with
  | object other => rw [objcType, Option.some.inj h]; rfl
  | array element ih =>
    have helement : element.modelName? = some model := h
    rw [objcType, PropertyType.isScalar_of_modelName? helement, if_neg Bool.false_ne_true,
      ih helement, PropertyType.depth, Function.iterate_succ_apply']
  | unknown | bool | int | double | string => cases h

/-- The Objective-C message that makes a model, up to the dictionary that it is made from. -/
def objcConstruction (model : String) : String := "[[" ++ model ++ " alloc] initWithDictionary:"

/-- Whether a text of Objective-C makes the model; what its literals say does not count. -/
def Makes (model text : String) : Prop :=
  (objcConstruction model).toList <:+: Literal.code false text.toList

/-- Outside its literals, what reads a payload shows nothing of the key. -/
theorem code_objcPayload_append (key : String) (rest : List Char) :
    Literal.code false ((objcPayload key).toList ++ rest)
      = "dictionary[@]".toList ++ Literal.code false rest := by
  have hpayload : (objcPayload key).toList ++ rest
      = "dictionary[@".toList ++ ((Literal.quote key).toList ++ ("]".toList ++ rest)) := by
    simp [objcPayload]
  rw [hpayload, Literal.code_append (by decide), Literal.code_quote_append,
    Literal.code_append (by decide), ← List.append_assoc]
  rfl

/-- A model, or each model of a list, is made behind the payload key that it is read from. -/
theorem exists_objcAssignment_eq (hmodel : property.type.modelName? = some model)
    (hdepth : property.type.depth ≤ 1) : ∃ front between rest : String,
    objcAssignment property
      = front ++ (objcPayload property.key ++ (between ++ (objcConstruction model ++ rest))) ∧
    ('"' ∉ property.name.toList → '"' ∉ front.toList ∧ '"' ∉ between.toList) := by
  rcases PropertyType.eq_of_depth_le_one hmodel hdepth with htype | htype
  · refine ⟨"        _" ++ property.name ++ " = [", " isKindOfClass:[NSDictionary class]] ? ",
      objcPayload property.key ++ "] : nil;", ?_, fun hname => ⟨by simpa using hname, by decide⟩⟩
    apply String.toList_inj.1
    simp [objcAssignment, htype, objcValue, objcConstruction]
  · refine ⟨"        NSMutableArray *" ++ property.name ++ "Items = [NSMutableArray array];\n"
        ++ "        for (NSDictionary *item in ",
      ") \x7b\n            [" ++ property.name ++ "Items addObject:",
      "item]];\n        \x7d\n        _" ++ property.name ++ " = " ++ property.name ++ "Items;", ?_,
      fun hname => ⟨by simpa using hname, by simpa using hname⟩⟩
    apply String.toList_inj.1
    simp [objcAssignment, htype, objcConstruction, Text.unlines]

/-- What is stored as the payload holds it makes no model: making one takes two brackets, and the
code that reads a payload key has one. -/
theorem not_makes_payload (hquote : '"' ∉ property.name.toList)
    (hbracket : '[' ∉ property.name.toList) :
    ¬ Makes model ("        _" ++ property.name ++ " = " ++ objcPayload property.key ++ ";") := by
  intro hinfix
  have hfront : '"' ∉ ("        _" ++ property.name ++ " = ").toList := by simpa using hquote
  have hcount := hinfix.sublist.count_le '['
  rw [String.toList_append, String.toList_append, List.append_assoc, Literal.code_append hfront,
    code_objcPayload_append] at hcount
  have hleft : 2 ≤ (objcConstruction model).toList.count '[' := by
    simp [objcConstruction]
  have hright : ("        _" ++ property.name ++ " = ").toList.count '[' = 0 :=
    List.count_eq_zero_of_not_mem (by simpa using hbracket)
  have hpayload : ("dictionary[@]".toList ++ Literal.code false ";".toList).count '[' = 1 := by
    decide
  rw [List.count_append, hright, hpayload] at hcount
  omega

/-- A model, or each model of a list, is made by the code of the assignment, whatever the key
says. -/
theorem makes_of_depth_le_one (h : property.IsNamed objcSource)
    (hmodel : property.type.modelName? = some model) (hdepth : property.type.depth ≤ 1) :
    Makes model (objcAssignment property) := by
  obtain ⟨front, between, rest, htext, hquotes⟩ := exists_objcAssignment_eq hmodel hdepth
  obtain ⟨hfront, hbetween⟩ := hquotes (h.not_mem_name (by decide))
  have hconstruction : '"' ∉ (objcConstruction model).toList := by
    simpa [objcConstruction] using h.not_mem_model (by decide) model hmodel
  refine ⟨front.toList ++ "dictionary[@]".toList ++ between.toList,
    Literal.code false rest.toList, ?_⟩
  rw [htext, String.toList_append, Literal.code_append hfront, String.toList_append,
    code_objcPayload_append, String.toList_append, Literal.code_append hbetween,
    String.toList_append, Literal.code_append hconstruction]
  simp only [List.append_assoc]

/-- A list of lists is assigned as it is in the payload. -/
theorem objcAssignment_of_one_lt_depth (hdepth : 1 < property.type.depth) : objcAssignment property
    = "        _" ++ property.name ++ " = " ++ objcPayload property.key ++ ";" := by
  obtain ⟨element, htype⟩ := PropertyType.exists_eq_of_one_lt_depth hdepth
  rw [objcAssignment, htype]
  rfl

/-- The header declares the type of a property with all arrays around the model that it mentions.
The initializer makes that model when at most one array is around it. Else it stores what the
payload holds, and makes no model. -/
theorem makes_propertyText_iff (property : Property) (model : String)
    (hmodel : property.type.modelName? = some model) :
    let text := objcSource.propertyText property
    objcHeader.typeName property.type
        = (fun element => "NSArray<" ++ element ++ "> *")^[property.type.depth] (model ++ " *") ∧
    (property.type.depth ≤ 1 → (objcConstruction model).toList <:+: text.toList) ∧
    (1 < property.type.depth →
      text = "        _" ++ property.name ++ " = " ++ objcPayload property.key ++ ";") ∧
    (property.IsNamed objcSource → (Makes model text ↔ property.type.depth ≤ 1)) := by
  intro text
  refine ⟨objcType_of_modelName? hmodel, fun hdepth => ?_, objcAssignment_of_one_lt_depth,
    fun hnamed => ⟨fun hmakes => ?_, makes_of_depth_le_one hnamed hmodel⟩⟩
  · obtain ⟨front, between, rest, htext, -⟩ := exists_objcAssignment_eq hmodel hdepth
    refine ⟨(front ++ (objcPayload property.key ++ between)).toList, rest.toList, ?_⟩
    show _ = (objcAssignment property).toList
    rw [htext]
    simp
  · by_contra hdepth
    have hstored : text = _ := objcAssignment_of_one_lt_depth (Nat.lt_of_not_le hdepth)
    rw [hstored] at hmakes
    exact not_makes_payload (hnamed.not_mem_name (by decide)) (hnamed.not_mem_name (by decide))
      hmakes

/-- A list of lists, under a key that reads as if it made the model, and a list beside it. -/
theorem makes_propertyText_iff_grids :
    let key := "[[Grid alloc] initWithDictionary:"
    let nested : Property :=
      ⟨key, objcSource.propertyName key, .array (.array (.object "Grid")), false⟩
    let listed : Property := { nested with type := .array (.object "Grid") }
    nested.type.modelName? = some "Grid" ∧ nested.IsNamed objcSource ∧
      objcHeader.typeName nested.type = "NSArray<NSArray<Grid *> *> *" ∧
      ¬ Makes "Grid" (objcSource.propertyText nested) ∧
    listed.type.modelName? = some "Grid" ∧ listed.IsNamed objcSource ∧
      Makes "Grid" (objcSource.propertyText listed) := by
  intro key nested listed
  have hnested : nested.IsNamed objcSource := ⟨rfl, by decide⟩
  have hlisted : listed.IsNamed objcSource := ⟨rfl, by decide⟩
  obtain ⟨htype, -, -, hiff⟩ := makes_propertyText_iff nested "Grid" rfl
  obtain ⟨-, -, -, hother⟩ := makes_propertyText_iff listed "Grid" rfl
  refine ⟨rfl, hnested, htype, ?_, rfl, hlisted, (hother hlisted).2 (Nat.le_refl 1)⟩
  intro hmakes
  exact absurd ((hiff hnested).1 hmakes) (by decide)

/-- The payload of a board whose grid is a list of lists is stored as it is. -/
theorem not_construction_infix_propertyText :
    ¬ ∀ (key : String) (type : PropertyType) (isOptional : Bool) (model : String),
      type.modelName? = some model → (objcConstruction model).toList <:+: (objcSource.propertyText
        ⟨key, objcSource.propertyName key, type, isOptional⟩).toList := by
  intro hall
  have hinfix := hall "grid" (.array (.array (.object "Grid"))) false "Grid" rfl
  exact absurd hinfix (by decide)

end Target

end PayloadModels
