import PayloadModels.Proofs.Generation.Beginnings
import PayloadModels.Proofs.Target.Escapes
import PayloadModels.Proofs.Target.PropertyNames
import PayloadModels.Target.Declaration

/-!
# The payload key that a property is decoded from

What generated code decodes a property from is read off its text (`Target.wireKey?`): the literal
that is tied to the property, if there is one, and else its identifier, without the marks that
escape a reserved word. Each target has its own place for the literal, and Swift keeps all of them
apart from the properties, in the cases of an enumeration. Wherever it stands, the key that is read
is the property's own (`Target.wireKey?_propertyText`).
-/

namespace PayloadModels

open Naming

namespace Wire

/-! ## Reading -/

/-- What stands before the first colon. -/
def beforeColon? (cs : List Char) : Option (List Char) := (Text.cutAt [':'] cs).map (·.1)

/-- An identifier without backquotes. -/
def withoutBackquotes (cs : List Char) : String := String.ofList (cs.filter (· ≠ '\x60'))

/-- The case that a line of a Swift enumeration declares, and the key that it stands for. -/
def swiftCase? (line : String) : Option (String × String) :=
  (Text.after? "        case " line.toList).bind fun rest =>
    match Text.cutAt " = \"".toList rest with
    | none => some (String.ofList rest, withoutBackquotes rest)
    | some (name, literal) =>
      match Literal.read? false literal with
      | some (key, []) => some (String.ofList name, String.ofList key)
      | _ => none

/-- The cases of a Swift enumeration. -/
def swiftCases (mapping : String) : List (String × String) :=
  (Text.lines mapping).filterMap swiftCase?

/-- The key of a Swift property, which the mapping tells if there is one. -/
def swift? (mapping : Option String) (text : String) : Option String :=
  ((Text.after? "    let " text.toList).bind beforeColon?).bind fun name =>
    match mapping with
    | none => some (withoutBackquotes name)
    | some mapping => (swiftCases mapping).lookup (String.ofList name)

/-- The key of a Kotlin property, which an annotation tells if there is one. -/
def kotlin? (text : String) : Option String :=
  match Text.after? "    @SerializedName(\"" text.toList with
  | none => ((Text.after? "    val " text.toList).bind beforeColon?).map withoutBackquotes
  | some literal => (Literal.read? true literal).bind fun (key, rest) =>
    (Text.after? ") val " rest).map fun _ => String.ofList key

/-- The key that an Objective-C statement looks up first. -/
def objc? (text : String) : Option String :=
  (Text.cutAt "dictionary[@\"".toList text.toList).bind fun (_, literal) =>
    match Literal.read? false literal with
    | some (key, ']' :: _) => some (String.ofList key)
    | _ => none

/-- What the attribute above a Rust field says: another name for the field, and whether the field
may be absent. -/
structure Attribute where
  rename : Option String
  default : Bool
  deriving DecidableEq, Repr

/-- The attribute at the beginning of a text, and what follows it. -/
def fieldAttribute? (cs : List Char) : Option (Attribute × List Char) :=
  match Text.after? "    #[serde(" cs with
  | none => some (⟨none, false⟩, cs)
  | some arguments =>
    match Text.after? "rename = \"" arguments with
    | none => (Text.after? "default)]\n" arguments).map fun rest => (⟨none, true⟩, rest)
    | some literal => (Literal.read? false literal).bind fun (key, rest) =>
      match Text.after? ")]\n" rest with
      | some field => some (⟨some (String.ofList key), false⟩, field)
      | none => (Text.after? ", default)]\n" rest).map fun field =>
          (⟨some (String.ofList key), true⟩, field)

/-- The name of a Rust field, without a raw mark. -/
def fieldName? (field : List Char) : Option String :=
  ((Text.after? "    pub " field).bind beforeColon?).map fun name =>
    String.ofList ((Text.after? "r#" name).getD name)

/-- The key of a Rust field, which an attribute tells if there is one. -/
def rust? (text : String) : Option String :=
  (fieldAttribute? text.toList).bind fun (said, field) =>
    match said.rename with
    | some key => some key
    | none => fieldName? field

end Wire

/-- The payload key that the text of a property says it is decoded from. -/
def Target.wireKey? (target : Target) (mapping : Option String) (text : String) : Option String :=
  match target with
  | swift => Wire.swift? mapping text
  | kotlin => Wire.kotlin? text
  | objcSource => Wire.objc? text
  | objcHeader => none
  | rust => Wire.rust? text

namespace Wire

/-! ## Names -/

/-- A name is what stands before the first colon. -/
theorem beforeColon?_append {name : List Char} (h : ':' ∉ name) (rest : List Char) :
    beforeColon? (name ++ ':' :: rest) = some name := by
  rw [beforeColon?]
  exact congrArg (Option.map _) (Text.cutAt_append h [] rest)

/-- The name that is declared behind a lead. -/
theorem bind_beforeColon? (lead : String) {name : List Char} (h : ':' ∉ name) (rest : List Char) :
    (Text.after? lead (lead.toList ++ (name ++ ':' :: rest))).bind beforeColon? = some name := by
  rw [Text.after?_append, Option.bind_some, beforeColon?_append h]

/-- Backquotes around a reserved word are taken off again. -/
theorem withoutBackquotes_backquoted (reserved : List String) {base : String}
    (h : IsNameText base) :
    withoutBackquotes (Target.backquoted reserved base).toList = base := by
  have hquote : ∀ c ∈ base.toList, c ≠ '\x60' := by
    rintro c hc rfl
    exact absurd (h _ hc) (by decide)
  have hbase : base.toList.filter (· ≠ '\x60') = base.toList :=
    List.filter_eq_self.2 fun c hc => decide_eq_true (hquote c hc)
  rw [withoutBackquotes, Target.backquoted]
  split
  · have hquoted : ("\x60" ++ base ++ "\x60").toList = '\x60' :: (base.toList ++ ['\x60']) := by
      simp
    have hfilter : ('\x60' :: (base.toList ++ ['\x60'])).filter (· ≠ '\x60') = base.toList := by
      rw [List.filter_cons_of_neg (by simp), List.filter_append, hbase]
      simp
    rw [hquoted, hfilter, String.ofList_toList]
  · rw [hbase, String.ofList_toList]

/-! ## Swift and Kotlin -/

variable {property : Property} {properties : List Property}

/-- A name that need not be tied to its key is the key, without backquotes. -/
theorem withoutBackquotes_of_not_isRenamed {target : Target}
    (htarget : target = .swift ∨ target = .kotlin)
    (hname : property.name = target.propertyName property.key)
    (h : Target.isRenamed property = false) :
    withoutBackquotes property.name.toList = property.key := by
  have hkey : Target.bareName property.name = property.key := by simpa [Target.isRenamed] using h
  have hcamel := isNameText_lowerCamel property.key
  rw [hname] at hkey ⊢
  rcases htarget with rfl | rfl
  · exact (withoutBackquotes_backquoted _ hcamel).trans
      ((Target.bareName_backquoted _ hcamel).symm.trans hkey)
  · exact (withoutBackquotes_backquoted _ hcamel).trans
      ((Target.bareName_backquoted _ hcamel).symm.trans hkey)

/-- Kotlin decodes a property from its key, with an annotation or without. -/
theorem kotlin?_propertyText (hname : property.name = Target.kotlin.propertyName property.key) :
    kotlin? (Target.kotlin.propertyText property) = some property.key := by
  have hcolon : ':' ∉ property.name.toList := hname ▸ Target.not_mem_propertyName (by decide) _ _
  show kotlin? (Target.kotlinParameter property) = _
  unfold Target.kotlinParameter
  dsimp only
  generalize (if property.isOptional then Target.kotlinType property.type ++ "? = null"
    else Target.kotlinType property.type) = declared
  by_cases h : Target.isRenamed property
  · have htext : ("    " ++ ("@SerializedName(\""
        ++ Literal.dollarsEscaped (Literal.escape property.key) ++ "\") ")
        ++ "val " ++ property.name ++ ": " ++ declared ++ ",").toList
        = "    @SerializedName(\"".toList ++
          ((Literal.dollarsEscaped (Literal.escape property.key)).toList
            ++ '"' :: (") val ".toList ++ (property.name ++ ": " ++ declared ++ ",").toList)) := by
      simp
    rw [if_pos h, kotlin?, htext, Text.after?_append]
    simp only [Literal.read?_dollarsEscaped, Option.bind_some, Text.after?_append, Option.map_some,
      String.ofList_toList]
  · have htext : ("    " ++ "" ++ "val " ++ property.name ++ ": " ++ declared ++ ",").toList
        = "    val ".toList
          ++ (property.name.toList ++ ':' :: (" " ++ declared ++ ",").toList) := by
      simp
    have hnone : Text.after? "    @SerializedName(\"" ("    val ".toList
        ++ (property.name.toList ++ ':' :: (" " ++ declared ++ ",").toList)) = none :=
      Text.after?_eq_none_of_isPrefix (by decide) (List.prefix_append _ _)
    have hbare := withoutBackquotes_of_not_isRenamed (.inr rfl) hname (by simpa using h)
    rw [if_neg h, kotlin?, htext, hnone, bind_beforeColon? _ hcolon]
    exact congrArg some hbare

/-- A line of the enumeration ties a name to its key. -/
theorem swiftCase?_swiftCase (hname : property.name = Target.swift.propertyName property.key) :
    swiftCase? (Target.swiftCase property) = some (property.name, property.key) := by
  have hspace : ' ' ∉ property.name.toList := hname ▸ Target.not_mem_propertyName (by decide) _ _
  rw [swiftCase?, Target.swiftCase]
  by_cases h : Target.isRenamed property
  · have htext : ("        case " ++ property.name ++ (" = " ++ Literal.quote property.key)).toList
        = "        case ".toList ++ (property.name.toList ++
          ' ' :: (['=', ' ', '"'] ++ ((Literal.escape property.key).toList ++ '"' :: []))) := by
      simp [Literal.quote]
    have hcut : Text.cutAt " = \"".toList (property.name.toList ++
          ' ' :: (['=', ' ', '"'] ++ ((Literal.escape property.key).toList ++ '"' :: [])))
        = some (property.name.toList, (Literal.escape property.key).toList ++ '"' :: []) :=
      Text.cutAt_append hspace ['=', ' ', '"'] _
    rw [if_pos h, htext, Text.after?_append, Option.bind_some, hcut]
    simp only [Literal.read?_escape, String.ofList_toList]
  · have hnone : Text.cutAt " = \"".toList property.name.toList = none :=
      Text.cutAt_eq_none (by decide) hspace
    have hbare := withoutBackquotes_of_not_isRenamed (.inl rfl) hname (by simpa using h)
    rw [if_neg h, String.append_empty, String.toList_append, Text.after?_append, Option.bind_some,
      hnone, String.ofList_toList, hbare]

/-- The cases of the enumeration are those of the properties, sorted by their names. -/
theorem swiftCases_keyMapping
    (hnames : ∀ property ∈ properties, property.name = Target.swift.propertyName property.key)
    {mapping : String} (h : Target.swift.keyMapping properties = some mapping) :
    swiftCases mapping = (properties.mergeSort fun a b => a.name ≤ b.name).map
      fun property => (property.name, property.key) := by
  have hcase : ∀ property ∈ properties.mergeSort fun a b => a.name ≤ b.name,
      (Text.lines (Target.swiftCase property)).filterMap swiftCase?
        = [(property.name, property.key)] := by
    intro property hproperty
    have hname := hnames property (List.mem_mergeSort.1 hproperty)
    have hline : '\n' ∉ (Target.swiftCase property).toList := by
      have hfeed : '\n' ∉ property.name.toList :=
        hname ▸ Target.not_mem_propertyName (by decide) _ _
      rw [Target.swiftCase]
      split <;> simp [hfeed, Literal.not_mem_quote]
    rw [Text.lines_eq_singleton hline, List.filterMap_cons_some (swiftCase?_swiftCase hname)]
    rfl
  rw [Target.keyMapping] at h
  split at h
  · cases h
    have hopening : (Text.lines "").filterMap swiftCase?
        ++ (Text.lines "    enum CodingKeys: String, CodingKey \x7b").filterMap swiftCase?
        = [] := by
      decide
    have hclosing : (Text.lines "    \x7d").filterMap swiftCase? = [] := by decide
    rw [swiftCases, Text.lines_unlines (by simp), List.filterMap_flatMap, List.flatMap_append,
      List.flatMap_append, List.flatMap_map, List.flatMap_congr hcase, ← List.map_eq_flatMap]
    simp only [List.flatMap_cons, List.flatMap_nil, List.append_nil, hopening, hclosing,
      List.nil_append]
  · cases h

/-- Among properties with distinct names, a name leads to the key of its property. -/
theorem lookup_name (h : (properties.map (·.name)).Nodup) (hproperty : property ∈ properties) :
    (properties.map fun property => (property.name, property.key)).lookup property.name
      = some property.key := by
  induction properties with
  | nil => cases hproperty
  | cons first properties ih =>
    obtain ⟨hfirst, hrest⟩ := List.nodup_cons.1 h
    rw [List.map_cons, List.lookup_cons]
    rcases List.mem_cons.1 hproperty with rfl | hproperty
    · rw [beq_self_eq_true]
    · have hne : property.name ≠ first.name :=
        ne_of_mem_of_not_mem (List.mem_map_of_mem hproperty) hfirst
      rw [beq_false_of_ne hne]
      exact ih hrest hproperty

/-- Swift decodes a property from its key, with the mapping or without. -/
theorem swift?_propertyText
    (hnames : ∀ property ∈ properties, property.name = Target.swift.propertyName property.key)
    (hdistinct : (properties.map (·.name)).Nodup) (hproperty : property ∈ properties) :
    swift? (Target.swift.keyMapping properties) (Target.swift.propertyText property)
      = some property.key := by
  have hname := hnames property hproperty
  have hcolon : ':' ∉ property.name.toList := hname ▸ Target.not_mem_propertyName (by decide) _ _
  have htext : (Target.swift.propertyText property).toList = "    let ".toList ++
      (property.name.toList ++ ':' :: (" " ++ Target.swiftType property.type
        ++ if property.isOptional then "?" else "").toList) := by
    simp [Target.propertyText]
  rw [swift?, htext, bind_beforeColon? _ hcolon, Option.bind_some]
  cases hmapping : Target.swift.keyMapping properties with
  | none =>
    have hbare : Target.isRenamed property = false := by
      simp only [Target.keyMapping, ite_eq_right_iff, reduceCtorEq, imp_false, List.any_eq_true,
        not_exists, not_and, Bool.not_eq_true] at hmapping
      exact hmapping property hproperty
    exact congrArg some (withoutBackquotes_of_not_isRenamed (.inl rfl) hname hbare)
  | some mapping =>
    show (swiftCases mapping).lookup (String.ofList property.name.toList) = _
    have hsorted := List.mergeSort_perm properties fun a b => a.name ≤ b.name
    rw [swiftCases_keyMapping hnames hmapping, String.ofList_toList]
    exact lookup_name ((hsorted.map (·.name)).nodup_iff.2 hdistinct) (hsorted.mem_iff.2 hproperty)

/-! ## Objective-C -/

/-- An assignment is made of expressions that look the payload key up, and of pieces between them
that have no literal. The first piece has none whatever the type is. -/
theorem exists_pieces_objcAssignment (hname : '@' ∉ property.name.toList) :
    ∃ (front : String) (pieces : List String), pieces ≠ [] ∧ '@' ∉ front.toList ∧
      Target.objcAssignment property
        = (Target.objcPayload property.key).intercalate (front :: pieces) ∧
      ((∀ model ∈ property.type.modelName?, '@' ∉ model.toList) →
        ∀ piece ∈ pieces, '@' ∉ piece.toList) := by
  unfold Target.objcAssignment
  dsimp only
  split
  · next model htype =>
    refine ⟨"        NSMutableArray *" ++ property.name
        ++ "Items = [NSMutableArray array];\n        for (NSDictionary *item in ",
      [") \x7b\n            [" ++ property.name ++ "Items addObject:[[" ++ model
        ++ " alloc] initWithDictionary:item]];\n        \x7d\n        _" ++ property.name ++ " = "
        ++ property.name ++ "Items;"], List.cons_ne_nil _ _, ?_, ?_, ?_⟩
    · simp [hname]
    · apply String.toList_inj.1
      simp [Text.unlines]
    · intro hmodel
      have hmodel : '@' ∉ model.toList := hmodel model (by rw [htype]; rfl)
      simp [hname, hmodel]
  · have hscalar : ∀ call : String, '@' ∉ call.toList →
        ∃ (front : String) (pieces : List String), pieces ≠ [] ∧ '@' ∉ front.toList ∧
          "        _" ++ property.name ++ " = " ++ ("[" ++ Target.objcPayload property.key ++ call)
              ++ ";" = (Target.objcPayload property.key).intercalate (front :: pieces) ∧
          ((∀ model ∈ property.type.modelName?, '@' ∉ model.toList) →
            ∀ piece ∈ pieces, '@' ∉ piece.toList) := by
      intro call hcall
      refine ⟨"        _" ++ property.name ++ " = " ++ "[", [call ++ ";"], List.cons_ne_nil _ _,
        by simp [hname], ?_, fun _ => by simp [hcall]⟩
      simp only [String.intercalate_cons_cons, String.intercalate_singleton, String.append_assoc]
    unfold Target.objcValue
    dsimp only
    split
    · exact hscalar " boolValue]" (by decide)
    · exact hscalar " integerValue]" (by decide)
    · exact hscalar " doubleValue]" (by decide)
    · next model htype =>
      refine ⟨"        _" ++ property.name ++ " = " ++ "[",
        [" isKindOfClass:[NSDictionary class]] ? [[" ++ model ++ " alloc] initWithDictionary:",
          "] : nil" ++ ";"], List.cons_ne_nil _ _, by simp [hname], ?_, fun hmodel => ?_⟩
      · simp only [String.intercalate_cons_cons, String.intercalate_singleton, String.append_assoc]
      · have hmodel : '@' ∉ model.toList := hmodel model (by rw [htype]; rfl)
        simp [hmodel]
    all_goals
      refine ⟨"        _" ++ property.name ++ " = ", [";"], List.cons_ne_nil _ _,
        by simp [hname], ?_, fun _ => by simp⟩
      simp [String.append_assoc]

/-- Objective-C looks a property up under its key. -/
theorem objc?_propertyText (hname : property.name = Target.objcSource.propertyName property.key) :
    objc? (Target.objcSource.propertyText property) = some property.key := by
  have hsign : '@' ∉ property.name.toList := hname ▸ Target.not_mem_propertyName (by decide) _ _
  obtain ⟨front, pieces, hpieces, hfront, heq, -⟩ := exists_pieces_objcAssignment hsign
  obtain ⟨piece, pieces, rfl⟩ := List.exists_cons_of_ne_nil hpieces
  obtain ⟨rest, hrest⟩ : ∃ rest, Target.objcAssignment property
      = front ++ Target.objcPayload property.key ++ rest :=
    ⟨_, heq.trans (String.intercalate_cons_cons ..)⟩
  have htext : (Target.objcSource.propertyText property).toList = front.toList ++
      ("dictionary[".toList ++ '@' :: ['"'] ++
        ((Literal.escape property.key).toList ++ '"' :: ']' :: rest.toList)) := by
    show (Target.objcAssignment property).toList = _
    rw [hrest]
    simp [Target.objcPayload, Literal.quote]
  have hcut : Text.cutAt ("dictionary[".toList ++ '@' :: ['"']) (front.toList ++
      ("dictionary[".toList ++ '@' :: ['"'] ++
        ((Literal.escape property.key).toList ++ '"' :: ']' :: rest.toList)))
      = some (front.toList, (Literal.escape property.key).toList ++ '"' :: ']' :: rest.toList) :=
    Text.cutAt_append_of_not_mem hfront (by decide) ['"'] _
  have hmark : "dictionary[@\"".toList = "dictionary[".toList ++ '@' :: ['"'] := by decide
  rw [objc?, htext, hmark, hcut, Option.bind_some]
  simp only [Literal.read?_escape, String.ofList_toList]

/-! ## Rust -/

/-- The attribute that a field needs. -/
def attributeOf (property : Property) : Attribute where
  rename := if Target.withoutRawMark property.name = property.key then none else some property.key
  default := property.isOptional

/-- The attribute stands before the field, whatever the field is. -/
theorem withDecodingAttribute_append (property : Property) (field : String) :
    Target.withDecodingAttribute property field
      = Target.withDecodingAttribute property "" ++ field := by
  unfold Target.withDecodingAttribute
  dsimp only
  split
  · exact (String.empty_append ..).symm
  · simp [String.append_assoc]

/-- Above a field, the attribute is read that the field needs. -/
theorem fieldAttribute?_withDecodingAttribute (property : Property) {field : String}
    (h : ¬ "    #[serde(".toList <+: field.toList) :
    fieldAttribute? (Target.withDecodingAttribute property field).toList
      = some (attributeOf property, field.toList) := by
  unfold Target.withDecodingAttribute attributeOf
  dsimp only
  have hdefault : Text.after? "rename = \"" ("default)]\n".toList ++ field.toList) = none :=
    Text.after?_eq_none_of_isPrefix (by decide) (List.prefix_append _ _)
  have hclosed : Text.after? ")]\n" (", default)]\n".toList ++ field.toList) = none :=
    Text.after?_eq_none_of_isPrefix (by decide) (List.prefix_append _ _)
  by_cases hrename : Target.withoutRawMark property.name = property.key
  · cases hoptional : property.isOptional with
    | false =>
      simp only [hrename, if_true, Bool.false_eq_true, if_false, List.append_nil]
      rw [fieldAttribute?, Text.after?_eq_none h]
    | true =>
      have htext : ("    #[serde(" ++ ", ".intercalate ["default"] ++ ")]\n" ++ field).toList
          = "    #[serde(".toList ++ ("default)]\n".toList ++ field.toList) := by simp
      simp only [hrename, if_true, List.nil_append]
      rw [htext, fieldAttribute?, Text.after?_append]
      simp only [hdefault, Text.after?_append, Option.map_some]
  · cases hoptional : property.isOptional with
    | false =>
      have htext : ("    #[serde(" ++ ", ".intercalate ["rename = " ++ Literal.quote property.key]
            ++ ")]\n" ++ field).toList = "    #[serde(".toList ++ ("rename = \"".toList ++
          ((Literal.escape property.key).toList ++ '"' :: (")]\n".toList ++ field.toList))) := by
        simp [Literal.quote]
      simp only [hrename, if_false, Bool.false_eq_true, List.append_nil]
      rw [htext, fieldAttribute?, Text.after?_append]
      simp only [Text.after?_append, Literal.read?_escape, Option.bind_some, String.ofList_toList]
    | true =>
      have htext : ("    #[serde(" ++ ", ".intercalate ["rename = " ++ Literal.quote property.key,
            "default"] ++ ")]\n" ++ field).toList
          = "    #[serde(".toList ++ ("rename = \"".toList ++ ((Literal.escape property.key).toList
            ++ '"' :: (", default)]\n".toList ++ field.toList))) := by
        simp [Literal.quote]
      simp only [hrename, if_false, if_true, List.cons_append, List.nil_append]
      rw [htext, fieldAttribute?, Text.after?_append]
      simp only [Text.after?_append, Literal.read?_escape, Option.bind_some, hclosed,
        Option.map_some, String.ofList_toList]

/-- A Rust field is its attribute above its visibility, name and type. -/
theorem exists_propertyText_rust (property : Property) : ∃ declared : String,
    Target.rust.propertyText property = Target.withDecodingAttribute property
      ("    pub " ++ property.name ++ ": " ++ declared ++ ",") := ⟨_, rfl⟩

/-- Rust decodes a field from its key, with an attribute or without. -/
theorem rust?_propertyText (hname : property.name = Target.rust.propertyName property.key) :
    rust? (Target.rust.propertyText property) = some property.key := by
  have hcolon : ':' ∉ property.name.toList := hname ▸ Target.not_mem_propertyName (by decide) _ _
  obtain ⟨declared, htext⟩ := exists_propertyText_rust property
  have hfield : ("    pub " ++ property.name ++ ": " ++ declared ++ ",").toList
      = "    pub ".toList ++ (property.name.toList ++ ':' :: (" " ++ declared ++ ",").toList) := by
    simp
  have hnot : ¬ "    #[serde(".toList
      <+: ("    pub " ++ property.name ++ ": " ++ declared ++ ",").toList := by
    rw [hfield]
    exact fun hmark => (List.prefix_or_prefix_of_prefix hmark (List.prefix_append _ _)).elim
      (by decide) (by decide)
  rw [rust?, htext, fieldAttribute?_withDecodingAttribute property hnot, Option.bind_some, hfield]
  unfold attributeOf
  by_cases h : Target.withoutRawMark property.name = property.key
  · have hbare := Target.withoutRawMark_propertyName property.key
    rw [← hname, h] at hbare
    simp only [if_pos h, fieldName?, bind_beforeColon? _ hcolon, Option.map_some, ← hbare]
  · simp only [if_neg h]

/-- The attribute of a field stands alone above a line that was edited by hand. -/
theorem fieldAttribute?_editedText (property : Property) :
    fieldAttribute? (Target.rust.editedText property "").toList = some (attributeOf property, []) :=
  fieldAttribute?_withDecodingAttribute property (by decide)

end Wire

/-! ## All targets -/

/-- The generated code decodes each property from the property's own key. In Swift, the mapping has
one case for each property and no others; in Objective-C, every literal is a look-up of the key; and
in Rust, a line that was edited by hand has the attribute above it that the generated one has. -/
theorem Target.wireKey?_propertyText {target : Target} (htarget : target ≠ .objcHeader)
    {properties : List Property}
    (hnames : ∀ property ∈ properties, property.name = target.propertyName property.key)
    (hdistinct : (properties.map (·.name)).Nodup) :
    (∀ property ∈ properties,
      target.wireKey? (target.keyMapping properties) (target.propertyText property)
        = some property.key) ∧
    (∀ mapping ∈ target.keyMapping properties,
      ((Wire.swiftCases mapping).map (·.1)).Perm (properties.map (·.name))) ∧
    (target = .objcSource → ∀ property ∈ properties,
      (∀ model ∈ property.type.modelName?, '@' ∉ model.toList) →
        ∃ pieces : List String, 2 ≤ pieces.length ∧ (∀ piece ∈ pieces, '@' ∉ piece.toList) ∧
          target.propertyText property = (objcPayload property.key).intercalate pieces) ∧
    (target = .rust → ∀ property ∈ properties, ∃ above field : String,
      Wire.fieldAttribute? above.toList = some (Wire.attributeOf property, []) ∧
        target.propertyText property = above ++ ("    pub " ++ property.name ++ field) ∧
        ∀ line, target.editedText property line = above ++ line) := by
  refine ⟨fun property hproperty => ?_, fun mapping hmapping => ?_, ?_, ?_⟩
  · have hname := hnames property hproperty
    cases target with
    | swift =>
      rw [wireKey?]
      exact Wire.swift?_propertyText hnames hdistinct hproperty
    | kotlin =>
      rw [wireKey?]
      exact Wire.kotlin?_propertyText hname
    | objcSource =>
      rw [wireKey?]
      exact Wire.objc?_propertyText hname
    | objcHeader => exact absurd rfl htarget
    | rust =>
      rw [wireKey?]
      exact Wire.rust?_propertyText hname
  · cases target with
    | swift =>
      rw [Wire.swiftCases_keyMapping hnames hmapping, List.map_map]
      exact (List.mergeSort_perm properties _).map _
    | _ => cases hmapping
  · rintro rfl property hproperty hmodel
    have hsign : '@' ∉ property.name.toList :=
      hnames property hproperty ▸ not_mem_propertyName (by decide) _ _
    obtain ⟨front, pieces, hne, hfront, heq, hpieces⟩ := Wire.exists_pieces_objcAssignment hsign
    refine ⟨front :: pieces, ?_, List.forall_mem_cons.2 ⟨hfront, hpieces hmodel⟩, heq⟩
    exact Nat.succ_le_succ (List.length_pos_iff.2 hne)
  · rintro rfl property -
    obtain ⟨declared, hdeclared⟩ := Wire.exists_propertyText_rust property
    refine ⟨rust.editedText property "", ": " ++ declared ++ ",",
      Wire.fieldAttribute?_editedText property, ?_, Wire.withDecodingAttribute_append property⟩
    rw [hdeclared, Wire.withDecodingAttribute_append]
    simp only [String.append_assoc, editedText]

/-- Keys that Rust renames, escapes or keeps raw, each read back from its field. -/
theorem Target.wireKey?_propertyText_keys :
    let property (key : String) (isOptional : Bool) : Property :=
      ⟨key, rust.propertyName key, .string, isOptional⟩
    let properties := [property "type" true, property "say \"$hi\"" false, property "self" true]
    (∀ property ∈ properties, property.name = rust.propertyName property.key) ∧
      (properties.map (·.name)).Nodup ∧
      ∀ property ∈ properties,
        rust.wireKey? none (rust.propertyText property) = some property.key := by
  intro property properties
  have hnames : ∀ property ∈ properties, property.name = rust.propertyName property.key := by
    simp [properties, property]
  have hdistinct : (properties.map (·.name)).Nodup := by decide
  obtain ⟨hkeys, -⟩ := wireKey?_propertyText (by decide) hnames hdistinct
  exact ⟨hnames, hdistinct, hkeys⟩

end PayloadModels
