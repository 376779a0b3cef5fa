import PayloadModels.Generation.Previous
import PayloadModels.Proofs.Naming.Characters
import PayloadModels.Proofs.Repetitions
import PayloadModels.Proofs.Text.Fences

/-!
# Text without the mark of hand edits

What a run renders holds the mark of hand edits only if something that it is given does. Everything
around what is given is a fence for the mark, so it is enough that no single key, name, type, model
name and header text holds it (`Edition.IsUnmarked`): then no header, declaration or property does.
-/

namespace PayloadModels

/-- The text does not hold the mark of hand edits. -/
def Unmarked (text : String) : Prop := ¬ handEditMark.toList <:+: text.toList

instance (text : String) : Decidable (Unmarked text) := inferInstanceAs (Decidable (¬ _))

/-- The text can stand between two others without making up the mark with them. -/
def Seam (text : String) : Prop := Text.IsFence handEditMark.toList text.toList

instance (text : String) : Decidable (Seam text) := inferInstanceAs (Decidable (Text.IsFence _ _))

section
variable {s a b : String}

@[simp] theorem unmarked_append_append (h : Seam s) :
    Unmarked (a ++ s ++ b) ↔ Unmarked a ∧ Unmarked b := by
  rw [Unmarked, String.toList_append, String.toList_append, h.infix_append_append_iff, not_or]
  rfl

@[simp] theorem unmarked_append_right (h : Seam s) : Unmarked (a ++ s) ↔ Unmarked a := by
  rw [Unmarked, String.toList_append, h.infix_append_iff]
  rfl

@[simp] theorem unmarked_append_left (h : Seam s) : Unmarked (s ++ b) ↔ Unmarked b := by
  have hempty : Unmarked "" := by decide
  have happend := unmarked_append_append h (a := "") (b := b)
  rwa [String.empty_append, and_iff_right hempty] at happend

@[simp] theorem unmarked_empty : Unmarked "" := by decide

@[simp] theorem unmarked_of_seam (h : Seam s) : Unmarked s := h.notInside

@[simp] theorem unmarked_intercalate (h : Seam s) {texts : List String} :
    Unmarked (s.intercalate texts) ↔ ∀ text ∈ texts, Unmarked text := by
  induction texts with
  | nil => simp
  | cons text texts ih =>
    cases texts with
    | nil => simp
    | cons next texts =>
      rw [String.intercalate_cons_cons, unmarked_append_append h, ih]
      exact List.forall_mem_cons.symm

@[simp] theorem unmarked_unlines {texts : List String} :
    Unmarked (Text.unlines texts) ↔ ∀ text ∈ texts, Unmarked text :=
  unmarked_intercalate (by decide)

end

/-- No line of a text holds the mark when the text does not. -/
theorem Unmarked.of_mem_lines {text line : String} (h : Unmarked text)
    (hline : line ∈ Text.lines text) : Unmarked line := fun hmark =>
  h (hmark.trans (Text.infix_of_mem_lines hline))

/-- The mark has a colon. -/
theorem unmarked_of_not_mem {text : String} (h : ':' ∉ text.toList) : Unmarked text := fun hmark =>
  h (hmark.subset (by decide))

/-- A name in snake case does not hold the mark, whatever the key. -/
theorem unmarked_snake (key : String) : Unmarked (Naming.snake key) :=
  unmarked_of_not_mem fun hcolon =>
    Naming.not_isNameChar_colon (Naming.isNameText_snake key ':' hcolon)

/-! ## Literals -/

/-- A character is escaped only if it is one of five. -/
theorem escapeChar_eq_or (c : Char) :
    Literal.escapeChar c = [c] ∨ c ∈ ['"', '\\', '\n', '\r', '\t'] := by
  unfold Literal.escapeChar
  split <;> simp

/-- A key holds a mark between quotes as it does without them, when no character of the mark is
escaped and no escape gets into it. -/
theorem infix_escape_iff {mark : List Char} (hkept : mark.all (fun c => Literal.escapeChar c = [c]))
    (hescape : ['"', '\\', '\n', '\r', '\t'].all fun c =>
      Text.IsFence mark (Literal.escapeChar c))
    {key : String} : mark <:+: (Literal.escape key).toList ↔ mark <:+: key.toList := by
  simp only [List.all_eq_true, decide_eq_true_eq] at hkept hescape
  rw [Literal.escape, String.toList_ofList,
    Text.infix_flatMap_iff (fun c => (escapeChar_eq_or c).imp_right (hescape c)) hkept]

/-- Escaping dollar signs neither makes nor breaks a mark that has none. -/
theorem infix_dollarsEscaped_iff {mark : List Char} (hkept : '$' ∉ mark)
    (hescape : Text.IsFence mark ['\\', '$']) {text : String} :
    mark <:+: (Literal.dollarsEscaped text).toList ↔ mark <:+: text.toList := by
  have hreplace : ∀ c, (if c = '$' then ['\\', '$'] else [c]) = [c]
      ∨ Text.IsFence mark (if c = '$' then ['\\', '$'] else [c]) := by
    intro c
    split
    · exact .inr hescape
    · exact .inl rfl
  rw [Literal.dollarsEscaped, String.toList_ofList, Text.infix_flatMap_iff hreplace]
  intro c hc
  rw [if_neg (ne_of_mem_of_not_mem hc hkept)]

/-- Escaping a key does not make the mark. -/
theorem unmarked_escape {key : String} (h : Unmarked key) : Unmarked (Literal.escape key) :=
  mt (infix_escape_iff (by decide) (by decide)).1 h

/-- Escaping dollar signs does not make the mark. -/
theorem unmarked_dollarsEscaped {text : String} (h : Unmarked text) :
    Unmarked (Literal.dollarsEscaped text) :=
  mt (infix_dollarsEscaped_iff (by decide) (by decide)).1 h

/-- Quoting a key does not make the mark. -/
theorem unmarked_quote {key : String} (h : Unmarked key) : Unmarked (Literal.quote key) := by
  simp (disch := decide) [Literal.quote, unmarked_escape h]

/-! ## What is given -/

/-- The models that the type mentions have no mark in their names. -/
def PropertyType.IsUnmarked (type : PropertyType) : Prop :=
  ∀ model ∈ type.modelName?, Unmarked model

instance (type : PropertyType) : Decidable type.IsUnmarked :=
  inferInstanceAs (Decidable (∀ model ∈ type.modelName?, Unmarked model))

/-- Nothing that a property brings along holds the mark. -/
structure Property.IsUnmarked (property : Property) : Prop where
  key : Unmarked property.key
  name : Unmarked property.name
  type : property.type.IsUnmarked

instance (property : Property) : Decidable property.IsUnmarked :=
  decidable_of_iff (Unmarked property.key ∧ Unmarked property.name ∧ property.type.IsUnmarked)
    ⟨fun ⟨key, name, type⟩ => ⟨key, name, type⟩, fun ⟨key, name, type⟩ => ⟨key, name, type⟩⟩

/-- No text for the header holds the mark. -/
structure Imprint.IsUnmarked (imprint : Imprint) : Prop where
  project : Unmarked imprint.project
  author : ∀ author ∈ imprint.author, Unmarked author
  company : ∀ company ∈ imprint.company, Unmarked company
  package : ∀ package ∈ imprint.package, Unmarked package

instance (imprint : Imprint) : Decidable imprint.IsUnmarked :=
  decidable_of_iff (Unmarked imprint.project ∧ (∀ author ∈ imprint.author, Unmarked author) ∧
      (∀ company ∈ imprint.company, Unmarked company) ∧
      ∀ package ∈ imprint.package, Unmarked package)
    ⟨fun ⟨project, author, company, package⟩ => ⟨project, author, company, package⟩,
      fun ⟨project, author, company, package⟩ => ⟨project, author, company, package⟩⟩

/-- Nothing that an edition is made from holds the mark. -/
structure Edition.IsUnmarked (edition : Edition) : Prop where
  model : Unmarked edition.model
  properties : ∀ property ∈ edition.properties, property.IsUnmarked
  imprint : edition.imprint.IsUnmarked

instance (edition : Edition) : Decidable edition.IsUnmarked :=
  decidable_of_iff (Unmarked edition.model ∧
      (∀ property ∈ edition.properties, property.IsUnmarked) ∧ edition.imprint.IsUnmarked)
    ⟨fun ⟨model, properties, imprint⟩ => ⟨model, properties, imprint⟩,
      fun ⟨model, properties, imprint⟩ => ⟨model, properties, imprint⟩⟩

/-! ## Types and properties -/

namespace Target

variable {property : Property} {type : PropertyType}

/-- A type in Swift holds the mark only if a model's name in it does. -/
theorem unmarked_swiftType (h : type.IsUnmarked) : Unmarked (swiftType type) := by
  induction type with
  | object model => exact h model rfl
  | array element ih => simp (disch := decide) [swiftType, ih h]
  | _ => decide

/-- A type in Kotlin holds the mark only if a model's name in it does. -/
theorem unmarked_kotlinType (h : type.IsUnmarked) : Unmarked (kotlinType type) := by
  induction type with
  | object model => exact h model rfl
  | array element ih => simp (disch := decide) [kotlinType, ih h]
  | _ => decide

/-- A type in Rust holds the mark only if a model's name in it does. -/
theorem unmarked_rustType (h : type.IsUnmarked) : Unmarked (rustType type) := by
  induction type with
  | object model => exact h model rfl
  | array element ih => simp (disch := decide) [rustType, ih h]
  | _ => decide

/-- A type in Objective-C holds the mark only if a model's name in it does. -/
theorem unmarked_objcType (h : type.IsUnmarked) : Unmarked (objcType type) := by
  induction type with
  | object model =>
    have hmodel : Unmarked model := h model rfl
    simp (disch := decide) [objcType, hmodel]
  | array element ih =>
    rw [objcType]
    split
    · decide
    · simp (disch := decide) [ih h]
  | _ => decide

/-- What reads a payload holds the mark only if the key does. -/
theorem unmarked_objcPayload (h : property.IsUnmarked) :
    Unmarked (objcPayload property.key) := by
  simp (disch := decide) [objcPayload, unmarked_quote h.key]

/-- The value of a property holds the mark only if its key or its type does. -/
theorem unmarked_objcValue (h : property.IsUnmarked) :
    Unmarked (objcValue property.type property.key) := by
  have hpayload := unmarked_objcPayload h
  unfold objcValue
  split
  · simp (disch := decide) [hpayload]
  · simp (disch := decide) [hpayload]
  · simp (disch := decide) [hpayload]
  · next model htype =>
    have hmodel : Unmarked model := h.type model (by rw [htype]; rfl)
    simp (disch := decide) [hpayload, hmodel]
  all_goals exact hpayload

/-- An assignment holds the mark only if its property does. -/
theorem unmarked_objcAssignment (h : property.IsUnmarked) :
    Unmarked (objcAssignment property) := by
  have hpayload := unmarked_objcPayload h
  rw [objcAssignment]
  split
  · next model htype =>
    have hmodel : Unmarked model := h.type model (by rw [htype]; rfl)
    simp (disch := decide) [hpayload, hmodel, h.name]
  · simp (disch := decide) [h.name, unmarked_objcValue h]

/-- A type and a name after it, as an Objective-C declaration writes them. -/
theorem unmarked_objcType_append (h : type.IsUnmarked) {name : String} (hname : Unmarked name) :
    Unmarked (objcType type ++ (if (objcType type).toList.getLast? = some '*' then "" else " ")
      ++ name) := by
  split
  · next hlast =>
    rw [String.append_empty]
    cases type with
    | object model =>
      have hmodel : Unmarked model := h model rfl
      simp (disch := decide) [objcType, hmodel, hname]
    | array element =>
      have helement : Unmarked (objcType (.array element)) := unmarked_objcType h
      rw [objcType] at helement ⊢
      rw [unmarked_append_right (by decide)] at helement
      simp only [unmarked_append_append (s := "> *") (by decide), helement, hname, and_self]
    | string => simp (disch := decide) [objcType, hname]
    | _ => exact absurd hlast (by decide)
  · simp (disch := decide) [unmarked_objcType h, hname]

/-- A declaration in a header holds the mark only if its property does. -/
theorem unmarked_objcDeclaration (h : property.IsUnmarked) :
    Unmarked (objcDeclaration property) := by
  have hattributes : Unmarked (objcAttributes property) := by
    unfold objcAttributes
    split
    · decide
    · split <;> decide
  have htype := unmarked_objcType_append h.type h.name
  have hgroup : objcDeclaration property = "\n@property (" ++ objcAttributes property ++ ") "
      ++ (objcType property.type
        ++ (if (objcType property.type).toList.getLast? = some '*' then "" else " ")
        ++ property.name) ++ ";" := by
    rw [← String.append_assoc, ← String.append_assoc]
    rfl
  rw [hgroup, unmarked_append_right (by decide), unmarked_append_append (by decide)]
  exact ⟨by simp (disch := decide) [hattributes], htype⟩

/-- A parameter in Kotlin holds the mark only if its property does. -/
theorem unmarked_kotlinParameter (h : property.IsUnmarked) :
    Unmarked (kotlinParameter property) := by
  have hkey := unmarked_dollarsEscaped (unmarked_escape h.key)
  have htype := unmarked_kotlinType h.type
  unfold kotlinParameter
  split <;> split <;> simp (disch := decide) [hkey, htype, h.name]

/-- Over a Rust field stands nothing, or a line of attributes. -/
theorem withDecodingAttribute_eq (property : Property) (field : String) :
    withDecodingAttribute property field = field ∨ ∃ attributes : List String,
      (∀ text ∈ attributes, text = "rename = " ++ Literal.quote property.key ∨ text = "default") ∧
        withDecodingAttribute property field
          = "    #[serde(" ++ ", ".intercalate attributes ++ ")]" ++ "\n" ++ field := by
  have hall : ∀ text ∈ (if withoutRawMark property.name = property.key then []
        else ["rename = " ++ Literal.quote property.key])
      ++ (if property.isOptional then ["default"] else []),
      text = "rename = " ++ Literal.quote property.key ∨ text = "default" := by
    split <;> split <;> simp
  simp only [withDecodingAttribute]
  generalize (if withoutRawMark property.name = property.key then []
      else ["rename = " ++ Literal.quote property.key])
    ++ (if property.isOptional then ["default"] else []) = attributes at hall ⊢
  cases attributes with
  | nil => exact .inl rfl
  | cons first rest =>
    have hclose : ")]\n" = ")]" ++ "\n" := rfl
    refine .inr ⟨first :: rest, hall, ?_⟩
    show "    #[serde(" ++ ", ".intercalate (first :: rest) ++ ")]\n" ++ field = _
    rw [hclose, ← String.append_assoc]

/-- The line over a Rust field holds no mark. -/
theorem unmarked_attributes (h : property.IsUnmarked) {attributes : List String}
    (hall : ∀ text ∈ attributes,
      text = "rename = " ++ Literal.quote property.key ∨ text = "default") :
    Unmarked ("    #[serde(" ++ ", ".intercalate attributes ++ ")]") := by
  rw [unmarked_append_right (by decide), unmarked_append_left (by decide),
    unmarked_intercalate (by decide)]
  intro text htext
  rcases hall text htext with rfl | rfl
  · simp (disch := decide) [unmarked_quote h.key]
  · decide

/-- The attribute of a field holds the mark only if its property does. -/
theorem unmarked_withDecodingAttribute (h : property.IsUnmarked) {field : String}
    (hfield : Unmarked field) : Unmarked (withDecodingAttribute property field) := by
  obtain heq | ⟨attributes, hall, heq⟩ := withDecodingAttribute_eq property field
  · rwa [heq]
  · rw [heq, unmarked_append_append (by decide)]
    exact ⟨unmarked_attributes h hall, hfield⟩

/-- A field in Rust holds the mark only if its name or its type does. -/
theorem unmarked_rustField (htype : property.type.IsUnmarked) (hname : Unmarked property.name) :
    Unmarked ("    pub " ++ property.name ++ ": "
      ++ (if property.isOptional then "Option<" ++ rustType property.type ++ ">"
        else rustType property.type) ++ ",") := by
  have htype := unmarked_rustType htype
  split <;> simp (disch := decide) [htype, hname]

/-- What a target writes for a property holds no mark. -/
theorem unmarked_propertyText (target : Target) (h : property.IsUnmarked) :
    Unmarked (target.propertyText property) := by
  cases target with
  | swift =>
    have htype := unmarked_swiftType h.type
    rw [propertyText]
    split <;> simp (disch := decide) [htype, h.name]
  | kotlin => exact unmarked_kotlinParameter h
  | objcSource => exact unmarked_objcAssignment h
  | objcHeader => exact unmarked_objcDeclaration h
  | rust => exact unmarked_withDecodingAttribute h (unmarked_rustField h.type h.name)

/-! ## The text around the properties -/

/-- A file name holds the mark only if the model's name does. -/
theorem unmarked_fileName (target : Target) {model : String} (h : Unmarked model) :
    Unmarked (target.fileName model) := by
  cases target with
  | rust => simp (disch := decide) [fileName, unmarked_snake]
  | objcSource =>
    have hextension : Unmarked "m" := by decide
    simp (disch := decide) [fileName, extension, h, hextension]
  | _ => simp (disch := decide) [fileName, extension, h]

/-- The opening of a declaration holds the mark only if the model's name does. -/
theorem unmarked_opening (target : Target) {model : String} (h : Unmarked model) :
    Unmarked (target.opening model) := by
  cases target <;> simp (disch := decide) [opening, objcInitializer, h]

/-- The closing of a declaration does not hold the mark. -/
theorem unmarked_closing (target : Target) : Unmarked target.closing := by
  cases target <;> decide

/-- The text of a mapping has no mark when the properties have none. -/
theorem unmarked_keyMapping {target : Target} {properties : List Property}
    (h : ∀ property ∈ properties, property.IsUnmarked) {text : String}
    (htext : target.keyMapping properties = some text) : Unmarked text := by
  cases target with
  | swift =>
    have hcase : ∀ property ∈ properties, Unmarked (swiftCase property) := by
      intro property hproperty
      have hkey := unmarked_quote (h property hproperty).key
      have hname := (h property hproperty).name
      unfold swiftCase
      split <;> simp (disch := decide) [← String.append_assoc, hkey, hname]
    rw [keyMapping] at htext
    split at htext
    · cases htext
      simp (disch := decide) only [unmarked_unlines, List.forall_mem_append, List.forall_mem_cons,
        List.forall_mem_map, List.mem_mergeSort, unmarked_empty, unmarked_of_seam, List.not_mem_nil,
        false_imp_iff, implies_true, and_true, true_and]
      exact hcase
    · cases htext
  | _ => cases htext

section
variable {model name : String} {properties : List Property}

/-- A mentioned model is that of the type of some property, and another one. -/
theorem mem_mentionedModels : name ∈ mentionedModels model properties
    ↔ name ≠ model ∧ ∃ property ∈ properties, name ∈ property.type.modelName? := by
  simp [mentionedModels, mem_eraseReps, List.mem_mergeSort, and_comm]

/-- A mentioned model is that of the type of some property. -/
theorem exists_of_mem_mentionedModels (h : name ∈ mentionedModels model properties) :
    ∃ property ∈ properties, name ∈ property.type.modelName? :=
  (mem_mentionedModels.1 h).2

/-- A file mentions no model whose name holds the mark when no type does. -/
theorem unmarked_of_mem_mentionedModels (h : ∀ property ∈ properties, property.type.IsUnmarked)
    (hname : name ∈ mentionedModels model properties) : Unmarked name := by
  obtain ⟨property, hproperty, htype⟩ := exists_of_mem_mentionedModels hname
  exact h property hproperty name htype

end

/-- The imports in Kotlin hold the mark only if the package does. -/
theorem unmarked_kotlinImports {properties : List Property} {imprint : Imprint}
    (h : imprint.IsUnmarked) {text : String}
    (htext : kotlinImports properties imprint = some text) : Unmarked text := by
  have hpackage : ∀ line ∈ imprint.package.toList.map fun name => "package " ++ name ++ "\n",
      Unmarked line := by
    intro line hline
    obtain ⟨name, hname, rfl⟩ := List.mem_map.1 hline
    have hname : Unmarked name := h.package name (Option.mem_toList.1 hname)
    simp (disch := decide) [hname]
  have hannotation : ∀ line ∈ (if properties.any isRenamed then
      ["import com.google.gson.annotations.SerializedName\n"] else []), Unmarked line := by
    split <;> simp (disch := decide)
  simp only [kotlinImports] at htext
  split at htext
  · cases htext
  · cases htext
    rw [unmarked_unlines, List.forall_mem_append]
    exact ⟨hpackage, hannotation⟩

/-- The text of the imports has no mark when the names of models and the header have none. -/
theorem unmarked_imports {target : Target} {model : String} {properties : List Property}
    {imprint : Imprint} (hmodel : Unmarked model)
    (htypes : ∀ property ∈ properties, property.type.IsUnmarked) (himprint : imprint.IsUnmarked)
    {text : String} (htext : target.imports model properties imprint = some text) :
    Unmarked text := by
  have hmentioned : ∀ name ∈ mentionedModels model properties, Unmarked name :=
    fun name => unmarked_of_mem_mentionedModels htypes
  cases target with
  | swift => cases htext; decide
  | kotlin => exact unmarked_kotlinImports himprint htext
  | objcSource =>
    cases htext
    have himport : ∀ name, Unmarked name → Unmarked ("#import \"" ++ name ++ ".h\"") :=
      fun name hname => by simp (disch := decide) [hname]
    rw [unmarked_append_right (by decide), unmarked_unlines, List.forall_mem_map,
      List.forall_mem_cons]
    exact ⟨himport model hmodel, fun name hname => himport name (hmentioned name hname)⟩
  | objcHeader =>
    cases htext
    rw [unmarked_append_left (by decide)]
    split
    · decide
    · simp only [unmarked_append_right (s := ";\n") (by decide),
        unmarked_append_left (s := "\n@class ") (by decide),
        unmarked_intercalate (s := ", ") (by decide)]
      exact hmentioned
  | rust =>
    cases htext
    have huse : ∀ name, Unmarked name →
        Unmarked ("use super::" ++ Naming.snake name ++ "::" ++ name ++ ";") :=
      fun name hname => by simp (disch := decide) [hname, unmarked_snake]
    rw [unmarked_append_right (by decide), unmarked_unlines, List.forall_mem_append,
      List.forall_mem_cons, List.forall_mem_map]
    refine ⟨⟨by decide, ?_⟩, fun name hname => huse name (hmentioned name hname)⟩
    split <;> simp

end Target

/-! ## The header -/

/-- A number in digits has only digits. -/
theorem isDigit_of_mem_padded {width n : Nat} {c : Char} (h : c ∈ (Date.padded width n).toList) :
    c.isDigit := by
  simp only [Date.padded, String.toList_ofList, List.mem_append, List.mem_replicate] at h
  rcases h with ⟨-, rfl⟩ | h
  · decide
  · exact Nat.isDigit_of_mem_toDigits (by decide) (by decide) h

/-- A date in short form is made of digits and slashes. -/
theorem isDigit_or_of_mem_short {date : Date} {c : Char} (h : c ∈ date.short.toList) :
    c.isDigit ∨ c = '/' := by
  simp only [Date.short, String.toList_append, List.mem_append, or_assoc] at h
  rcases h with h | h | h | h | h
  · exact .inl (isDigit_of_mem_padded h)
  · exact .inr (by simpa using h)
  · exact .inl (isDigit_of_mem_padded h)
  · exact .inr (by simpa using h)
  · exact .inl (isDigit_of_mem_padded h)

/-- A year is made of digits and a sign. -/
theorem isDigit_or_of_mem_yearText {date : Date} {c : Char} (h : c ∈ date.yearText.toList) :
    c.isDigit ∨ c = '-' ∨ c = '+' := by
  unfold Date.yearText at h
  split at h
  · rw [String.toList_append, List.mem_append] at h
    exact h.elim (fun h => .inr (.inl (by simpa using h))) fun h => .inl (isDigit_of_mem_padded h)
  · split at h
    · rw [String.toList_append, List.mem_append] at h
      exact h.elim (fun h => .inr (.inr (by simpa using h))) fun h => .inl (isDigit_of_mem_padded h)
    · exact .inl (isDigit_of_mem_padded h)

/-- A date does not hold the mark. -/
theorem unmarked_short (date : Date) : Unmarked date.short :=
  unmarked_of_not_mem fun h => absurd (isDigit_or_of_mem_short h) (by decide)

/-- A year does not hold the mark. -/
theorem unmarked_yearText (date : Date) : Unmarked date.yearText :=
  unmarked_of_not_mem fun h => absurd (isDigit_or_of_mem_yearText h) (by decide)

/-- The header has no mark when none of its texts has one. -/
theorem unmarked_header {imprint : Imprint} (h : imprint.IsUnmarked) {fileName : String}
    (hname : Unmarked fileName) (target : Target) :
    Unmarked (imprint.header fileName target.lineComment) := by
  have hcomment : target.lineComment = "//" := by cases target <;> rfl
  have hcreation : Unmarked (imprint.creation "//") := by
    unfold Imprint.creation
    split
    · next author hauthor =>
      simp (disch := decide) [h.author author hauthor, unmarked_short]
    · simp (disch := decide) [unmarked_short]
  have hcopyright : ∀ line ∈ imprint.copyright "//", Unmarked line := by
    unfold Imprint.copyright
    split
    · next company hcompany =>
      simp (disch := decide) [h.company company hcompany, unmarked_yearText]
    · simp
  rw [hcomment, Imprint.header, unmarked_unlines, List.forall_mem_append, List.forall_mem_append]
  refine ⟨⟨?_, hcopyright⟩, by decide⟩
  simp (disch := decide) [hname, h.project, hcreation]

end PayloadModels
