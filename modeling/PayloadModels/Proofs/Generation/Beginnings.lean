import PayloadModels.Proofs.Generation.Dates
import PayloadModels.Proofs.Target.Escapes

/-!
# What lines begin with

Below its header, every line of a file that is not empty begins with a text of the target's own
(`Target.ledBy_of_mem_content`): the few texts that the lines of imports begin with
(`Target.importLeads`) and those of the declaration (`Target.leads`). So what a line is can be told
by its beginning alone. That asks for names that stand on one line each; a payload key may be any
text, since it is escaped (`Literal.not_mem_escape`).
-/

namespace PayloadModels

/-- Every line of the text is empty or begins with one of the leads. -/
def LedBy (leads : List String) (text : String) : Prop :=
  ∀ line ∈ Text.lines text, line = "" ∨ ∃ lead ∈ leads, lead.toList <+: line.toList

instance (leads : List String) (text : String) : Decidable (LedBy leads text) :=
  List.decidableBAll (fun line => line = "" ∨ ∃ lead ∈ leads, lead.toList <+: line.toList)
    (Text.lines text)

section

variable {leads : List String}

/-- Texts put below each other begin their lines as each of them does. -/
theorem ledBy_unlines {texts : List String} :
    LedBy leads (Text.unlines texts) ↔ ∀ text ∈ texts, LedBy leads text := by
  cases texts with
  | nil =>
    have hempty : Text.lines (Text.unlines []) = [""] := by decide
    refine iff_of_true (fun line hline => ?_) (List.forall_mem_nil _)
    rw [hempty, List.mem_singleton] at hline
    exact .inl hline
  | cons text texts =>
    simp only [LedBy, Text.lines_unlines (List.cons_ne_nil text texts), List.mem_flatMap]
    exact ⟨fun h text htext line hline => h line ⟨text, htext, hline⟩,
      fun h line ⟨text, htext, hline⟩ => h text htext line hline⟩

/-- Two texts with a break between them begin their lines as both do. -/
theorem ledBy_append_newline {a b : String} :
    LedBy leads (a ++ "\n" ++ b) ↔ LedBy leads a ∧ LedBy leads b := by
  simp [LedBy, Text.lines_append_newline, or_imp, forall_and]

/-- A break at the end begins no line with anything. -/
theorem ledBy_append_end {text : String} : LedBy leads (text ++ "\n") ↔ LedBy leads text := by
  rw [← String.append_empty (s := text ++ "\n"), ledBy_append_newline]
  refine and_iff_left fun line hline => .inl ?_
  have hempty : Text.lines "" = [""] := by decide
  rwa [hempty, List.mem_singleton] at hline

/-- A line is led by its beginning. -/
theorem ledBy_of_isPrefix {lead line : String} (hlead : lead ∈ leads)
    (hbegins : lead.toList <+: line.toList) (hline : '\n' ∉ line.toList) : LedBy leads line := by
  rw [LedBy, Text.lines_eq_singleton hline, List.forall_mem_singleton]
  exact .inr ⟨lead, hlead, hbegins⟩

/-- A text on one line that begins with a lead is led by it. -/
theorem ledBy_append {lead rest : String} (hlead : lead ∈ leads ∧ '\n' ∉ lead.toList)
    (hrest : '\n' ∉ rest.toList) : LedBy leads (lead ++ rest) :=
  ledBy_of_isPrefix hlead.1 (by simp) (by simp [hlead.2, hrest])

/-- More leads lead what fewer do. -/
theorem LedBy.mono {more : List String} {text : String} (h : LedBy leads text)
    (hleads : leads ⊆ more) : LedBy more text := fun line hline =>
  (h line hline).imp_right fun ⟨lead, hlead, hbegins⟩ => ⟨lead, hleads hlead, hbegins⟩

end

/-! ## Names on one line -/

/-- A name stands on one line. -/
theorem Naming.IsNameText.not_mem_newline {text : String} (h : IsNameText text) :
    '\n' ∉ text.toList := fun hmem => absurd (h _ hmem) (by decide)

namespace Literal

/-- An escaped key stands on one line, whatever the key. -/
theorem not_mem_escape (key : String) : '\n' ∉ (escape key).toList := fun hmem =>
  not_isControl_of_mem_escape key _ hmem (.inl rfl)

/-- A quoted key stands on one line, whatever the key. -/
theorem not_mem_quote (key : String) : '\n' ∉ (quote key).toList := by
  simp [quote, not_mem_escape]

/-- Escaping dollar signs breaks no line. -/
theorem not_mem_dollarsEscaped {text : String} (h : '\n' ∉ text.toList) :
    '\n' ∉ (dollarsEscaped text).toList := fun hmem =>
  forall_mem_dollarsEscaped (p := (· ≠ '\n')) (by decide)
    (fun _ hc => ne_of_mem_of_not_mem hc h) _ hmem rfl

end Literal

/-- The names that a property brings along stand on one line each. -/
structure Property.IsPlain (property : Property) : Prop where
  name : '\n' ∉ property.name.toList
  type : ∀ model ∈ property.type.modelName?, '\n' ∉ model.toList

instance (property : Property) : Decidable property.IsPlain :=
  decidable_of_iff ('\n' ∉ property.name.toList ∧
      ∀ model ∈ property.type.modelName?, '\n' ∉ model.toList)
    ⟨fun ⟨name, type⟩ => ⟨name, type⟩, fun ⟨name, type⟩ => ⟨name, type⟩⟩

namespace Target

/-- What the lines of imports begin with. -/
def importLeads : Target → List String
  | swift => ["import Foundation"]
  | kotlin => ["package ", "import com.google.gson.annotations.SerializedName"]
  | objcSource => ["#import \""]
  | objcHeader => ["#import <Foundation/Foundation.h>", "@class "]
  | rust => ["use serde::", "use super::"]

/-- What the lines of a declaration begin with. -/
def leads : Target → List String
  | swift => ["struct ", "    let ", "    enum CodingKeys", "        case ", "    \x7d", "\x7d"]
  | kotlin => ["data class ", "    @SerializedName(\"", "    val ", ")"]
  | objcSource =>
    ["@implementation ", objcInitializer, "    self = ", "    if (self)",
     "        NSMutableArray *", "        for (NSDictionary *item in ", "            [",
     "        \x7d", "        _", "    \x7d", "    return self;", "\x7d", "@end"]
  | objcHeader => ["@interface ", "@property (", objcInitializer, "@end"]
  | rust => ["#[derive(", "pub struct ", "    #[serde(", "    pub ", "\x7d"]

/-- What the lines of a declaration begin with that stand around the properties. -/
def frameLeads : Target → List String
  | swift => ["struct ", "    enum CodingKeys", "        case ", "    \x7d", "\x7d"]
  | kotlin => ["data class ", ")"]
  | objcSource =>
    ["@implementation ", objcInitializer, "    self = ", "    if (self)", "    \x7d",
     "    return self;", "\x7d", "@end"]
  | objcHeader => ["@interface ", objcInitializer, "@end"]
  | rust => ["#[derive(", "pub struct ", "\x7d"]

/-- What stands around the properties begins as lines of declarations do. -/
theorem frameLeads_subset_leads (target : Target) : target.frameLeads ⊆ target.leads := by
  cases target <;> decide

variable {property : Property}

/-- The spelling of a type has a line feed or a semicolon only if the name of a model has. -/
theorem not_mem_typeName {c : Char} (hc : c = '\n' ∨ c = ';') (target : Target)
    {type : PropertyType} (h : ∀ model ∈ type.modelName?, c ∉ model.toList) :
    c ∉ (target.typeName type).toList := by
  rcases hc with rfl | rfl
  all_goals
    induction type with
    | object model =>
      have hmodel := h model rfl
      cases target <;> simp [typeName, swiftType, kotlinType, objcType, rustType, hmodel]
    | array element ih =>
      have helement := ih h
      cases target with
      | swift => simpa [typeName, swiftType] using helement
      | kotlin => simpa [typeName, kotlinType] using helement
      | rust => simpa [typeName, rustType] using helement
      | objcSource | objcHeader =>
        rw [typeName, objcType]
        split
        · decide
        · simpa [typeName] using helement
    | _ => cases target <;> decide

/-- A Kotlin parameter stands on one line. -/
theorem not_mem_kotlinParameter (h : property.IsPlain) :
    '\n' ∉ (kotlinParameter property).toList := by
  have htype : '\n' ∉ (kotlinType property.type).toList :=
    not_mem_typeName (.inl rfl) .kotlin h.type
  have hkey := Literal.not_mem_dollarsEscaped (Literal.not_mem_escape property.key)
  unfold kotlinParameter
  split <;> split <;> simp [h.name, hkey, htype]

/-- The line of a Kotlin parameter begins with an annotation or a keyword. -/
theorem ledBy_kotlinParameter (h : property.IsPlain) :
    LedBy kotlin.leads (kotlinParameter property) := by
  by_cases hrenamed : isRenamed property
  · have hbegins : "    @SerializedName(\"".toList <+: (kotlinParameter property).toList := by
      simp [kotlinParameter, hrenamed]
    exact ledBy_of_isPrefix (by decide) hbegins (not_mem_kotlinParameter h)
  · have hbegins : "    val ".toList <+: (kotlinParameter property).toList := by
      simp [kotlinParameter, hrenamed]
    exact ledBy_of_isPrefix (by decide) hbegins (not_mem_kotlinParameter h)

/-- What reads a payload in Objective-C stands on one line. -/
theorem not_mem_objcPayload (key : String) : '\n' ∉ (objcPayload key).toList := by
  simp [objcPayload, Literal.not_mem_quote]

/-- The value of a property in Objective-C stands on one line. -/
theorem not_mem_objcValue (h : property.IsPlain) :
    '\n' ∉ (objcValue property.type property.key).toList := by
  have hpayload := not_mem_objcPayload property.key
  unfold objcValue
  split
  · simp [hpayload]
  · simp [hpayload]
  · simp [hpayload]
  · next model htype =>
    have hmodel : '\n' ∉ model.toList := h.type model (by rw [htype]; rfl)
    simp [hpayload, hmodel]
  all_goals exact hpayload

/-- The lines of an assignment in Objective-C begin as those of its implementation do. -/
theorem ledBy_objcAssignment (h : property.IsPlain) :
    LedBy objcSource.leads (objcAssignment property) := by
  have hpayload := not_mem_objcPayload property.key
  rw [objcAssignment]
  split
  · next model htype =>
    have hmodel : '\n' ∉ model.toList := h.type model (by rw [htype]; rfl)
    simp only [ledBy_unlines, List.forall_mem_cons, List.not_mem_nil, false_imp_iff, implies_true,
      and_true, String.append_assoc]
    refine ⟨?_, ?_, ?_, by decide, ?_⟩
    all_goals
      refine ledBy_append (by decide) ?_
      simp [h.name, hpayload, hmodel]
  · simp only [String.append_assoc]
    refine ledBy_append (by decide) ?_
    simp [h.name, not_mem_objcValue h]

/-- The line of a declaration in Objective-C begins as those of its header do. -/
theorem ledBy_objcDeclaration (h : property.IsPlain) :
    LedBy objcHeader.leads (objcDeclaration property) := by
  have htype : '\n' ∉ (objcType property.type).toList :=
    not_mem_typeName (.inl rfl) .objcHeader h.type
  have hattributes : '\n' ∉ (objcAttributes property).toList := by
    unfold objcAttributes
    split
    · decide
    · split <;> decide
  have hspace : '\n' ∉ (if (objcType property.type).toList.getLast? = some '*' then ""
      else " ").toList := by
    split <;> decide
  have hblank : ∀ rest, "\n@property (" ++ rest = "" ++ "\n" ++ ("@property (" ++ rest) := by
    intro rest
    apply String.toList_inj.1
    simp
  unfold objcDeclaration
  dsimp only
  generalize (if (objcType property.type).toList.getLast? = some '*' then "" else " ") = space
    at hspace ⊢
  simp only [String.append_assoc]
  rw [hblank, ledBy_append_newline]
  refine ⟨by decide, ledBy_append (by decide) ?_⟩
  simp [h.name, htype, hattributes, hspace]

/-- The attributes of a Rust field stand on one line. -/
theorem not_mem_attributes {attributes : List String} (h : ∀ text ∈ attributes,
    text = "rename = " ++ Literal.quote property.key ∨ text = "default") :
    '\n' ∉ (", ".intercalate attributes).toList := by
  refine Text.not_mem_intercalate (by decide) fun text htext => ?_
  rcases h text htext with rfl | rfl
  · simp [Literal.not_mem_quote]
  · decide

/-- An attribute above a Rust field begins a line of its own. -/
theorem ledBy_withDecodingAttribute (property : Property) {field : String}
    (h : LedBy rust.leads field) : LedBy rust.leads (withDecodingAttribute property field) := by
  obtain heq | ⟨attributes, hall, heq⟩ := withDecodingAttribute_eq property field
  · rwa [heq]
  · rw [heq, ledBy_append_newline, String.append_assoc]
    refine ⟨ledBy_append (by decide) ?_, h⟩
    rw [String.toList_append, List.mem_append, not_or]
    exact ⟨not_mem_attributes hall, by decide⟩

/-- What is written for a property. -/
theorem ledBy_propertyText (target : Target) (h : property.IsPlain) :
    LedBy target.leads (target.propertyText property) := by
  cases target with
  | swift =>
    have htype : '\n' ∉ (swiftType property.type).toList :=
      not_mem_typeName (.inl rfl) .swift h.type
    simp only [propertyText, String.append_assoc]
    refine ledBy_append (by decide) ?_
    split <;> simp [h.name, htype]
  | kotlin => exact ledBy_kotlinParameter h
  | objcSource => exact ledBy_objcAssignment h
  | objcHeader => exact ledBy_objcDeclaration h
  | rust =>
    have htype : '\n' ∉ (rustType property.type).toList := not_mem_typeName (.inl rfl) .rust h.type
    refine ledBy_withDecodingAttribute property ?_
    simp only [String.append_assoc]
    refine ledBy_append (by decide) ?_
    split <;> simp [h.name, htype]

/-! ## The text around the properties -/

variable {model : String} {properties : List Property} {imprint : Imprint}

/-- The opening of a declaration begins its lines as what stands around properties does. -/
theorem ledBy_opening (target : Target) (h : '\n' ∉ model.toList) :
    LedBy target.frameLeads (target.opening model) := by
  cases target with
  | swift | kotlin | objcHeader =>
    simp only [opening, String.append_assoc]
    exact ledBy_append (by decide) (by simp [h])
  | objcSource =>
    simp only [opening, ledBy_unlines, List.forall_mem_cons]
    refine ⟨ledBy_append (by decide) (by simp [h]), by decide, ?_, by decide, by decide, by simp⟩
    exact ledBy_append (by decide) (by decide)
  | rust =>
    simp only [opening, ledBy_unlines, List.forall_mem_cons, String.append_assoc]
    exact ⟨by decide, ledBy_append (by decide) (by simp [h]), by simp⟩

/-- The closing of a declaration begins its lines as what stands around properties does. -/
theorem ledBy_closing (target : Target) : LedBy target.frameLeads target.closing := by
  cases target <;> decide

/-- The mapping of keys begins its lines as what stands around properties does. -/
theorem ledBy_keyMapping {target : Target} (h : ∀ property ∈ properties, property.IsPlain)
    {text : String} (htext : target.keyMapping properties = some text) :
    LedBy target.frameLeads text := by
  cases target with
  | swift =>
    have hcase : ∀ property ∈ properties, LedBy swift.frameLeads (swiftCase property) := by
      intro property hproperty
      simp only [swiftCase, String.append_assoc]
      refine ledBy_append (by decide) ?_
      split <;> simp [(h property hproperty).name, Literal.not_mem_quote]
    rw [keyMapping] at htext
    split at htext
    · cases htext
      simp only [ledBy_unlines, List.forall_mem_append, List.forall_mem_cons, List.forall_mem_map,
        List.mem_mergeSort]
      exact ⟨⟨⟨by decide, by decide, by simp⟩, hcase⟩, by decide, by simp⟩
    · cases htext
  | _ => cases htext

/-- The name of a mentioned model stands on one line. -/
theorem not_mem_of_mem_mentionedModels (h : ∀ property ∈ properties, property.IsPlain)
    {name : String} (hname : name ∈ mentionedModels model properties) : '\n' ∉ name.toList := by
  obtain ⟨property, hproperty, htype⟩ := exists_of_mem_mentionedModels hname
  exact (h property hproperty).type name htype

/-- The lines of Kotlin's imports begin with the package or an import. -/
theorem ledBy_kotlinImports (h : ∀ package ∈ imprint.package, '\n' ∉ package.toList)
    {text : String} (htext : kotlinImports properties imprint = some text) :
    LedBy kotlin.importLeads text := by
  have hpackage : ∀ line ∈ imprint.package.toList.map fun name => "package " ++ name ++ "\n",
      LedBy kotlin.importLeads line := by
    rw [List.forall_mem_map]
    intro name hname
    rw [ledBy_append_end]
    exact ledBy_append (by decide) (h name (Option.mem_toList.1 hname))
  have hannotation : ∀ line ∈ (if properties.any isRenamed then
      ["import com.google.gson.annotations.SerializedName\n"] else []),
      LedBy kotlin.importLeads line := by
    split
    · decide
    · simp
  simp only [kotlinImports] at htext
  split at htext
  · cases htext
  · cases htext
    rw [ledBy_unlines, List.forall_mem_append]
    exact ⟨hpackage, hannotation⟩

/-- The Objective-C line that announces classes, between blank lines. -/
theorem ledBy_forwardDeclaration {names : List String} (h : ∀ name ∈ names, '\n' ∉ name.toList) :
    LedBy objcHeader.importLeads ("\n@class " ++ ", ".intercalate names ++ ";\n") := by
  have hlines : "\n@class " ++ ", ".intercalate names ++ ";\n"
      = "" ++ "\n" ++ ("@class " ++ (", ".intercalate names ++ ";")) ++ "\n" := by
    apply String.toList_inj.1
    simp
  have hnames : '\n' ∉ (", ".intercalate names).toList := Text.not_mem_intercalate (by decide) h
  rw [hlines, ledBy_append_end, ledBy_append_newline]
  refine ⟨by decide, ledBy_append (by decide) ?_⟩
  rw [String.toList_append, List.mem_append, not_or]
  exact ⟨hnames, by decide⟩

/-- The Rust line that brings a model into scope. -/
theorem ledBy_useLine {name : String} (h : '\n' ∉ name.toList) :
    LedBy rust.importLeads ("use super::" ++ Naming.snake name ++ "::" ++ name ++ ";") := by
  have hsnake : '\n' ∉ (Naming.snake name).toList := (Naming.isNameText_snake name).not_mem_newline
  simp only [String.append_assoc]
  exact ledBy_append (by decide) (by simp [h, hsnake])

/-- The lines of imports begin as the target's imports do. -/
theorem ledBy_imports {target : Target} (hmodel : '\n' ∉ model.toList)
    (hproperties : ∀ property ∈ properties, property.IsPlain)
    (hpackage : ∀ package ∈ imprint.package, '\n' ∉ package.toList) {text : String}
    (htext : target.imports model properties imprint = some text) :
    LedBy target.importLeads text := by
  have hmentioned : ∀ name ∈ mentionedModels model properties, '\n' ∉ name.toList :=
    fun name => not_mem_of_mem_mentionedModels hproperties
  cases target with
  | swift => cases htext; decide
  | kotlin => exact ledBy_kotlinImports hpackage htext
  | objcSource =>
    cases htext
    have himport : ∀ name : String, '\n' ∉ name.toList →
        LedBy objcSource.importLeads ("#import \"" ++ name ++ ".h\"") := by
      intro name hname
      rw [String.append_assoc]
      exact ledBy_append (by decide) (by simp [hname])
    rw [ledBy_append_end, ledBy_unlines, List.forall_mem_map, List.forall_mem_cons]
    exact ⟨himport model hmodel, fun name hname => himport name (hmentioned name hname)⟩
  | objcHeader =>
    cases htext
    have hblank : "#import <Foundation/Foundation.h>\n"
        = "#import <Foundation/Foundation.h>" ++ "\n" := rfl
    rw [hblank, ledBy_append_newline]
    refine ⟨by decide, ?_⟩
    split
    · decide
    · exact ledBy_forwardDeclaration hmentioned
  | rust =>
    cases htext
    rw [ledBy_append_end, ledBy_unlines, List.forall_mem_append, List.forall_mem_cons,
      List.forall_mem_map]
    refine ⟨⟨by decide, ?_⟩, fun name hname => ledBy_useLine (hmentioned name hname)⟩
    split
    · simp
    · decide

end Target

/-! ## Below the header -/

/-- Each text of an imprint stands on one line. -/
structure Imprint.IsPlain (imprint : Imprint) : Prop where
  project : '\n' ∉ imprint.project.toList
  author : ∀ author ∈ imprint.author, '\n' ∉ author.toList
  company : ∀ company ∈ imprint.company, '\n' ∉ company.toList
  package : ∀ package ∈ imprint.package, '\n' ∉ package.toList

instance (imprint : Imprint) : Decidable imprint.IsPlain :=
  decidable_of_iff ('\n' ∉ imprint.project.toList ∧
      (∀ author ∈ imprint.author, '\n' ∉ author.toList) ∧
      (∀ company ∈ imprint.company, '\n' ∉ company.toList) ∧
      ∀ package ∈ imprint.package, '\n' ∉ package.toList)
    ⟨fun ⟨project, author, company, package⟩ => ⟨project, author, company, package⟩,
      fun ⟨project, author, company, package⟩ => ⟨project, author, company, package⟩⟩

/-- The names and the imprint of an edition stand on one line each. -/
structure Edition.IsPlain (edition : Edition) : Prop where
  model : '\n' ∉ edition.model.toList
  properties : ∀ property ∈ edition.properties, property.IsPlain
  imprint : edition.imprint.IsPlain

instance (edition : Edition) : Decidable edition.IsPlain :=
  decidable_of_iff ('\n' ∉ edition.model.toList ∧
      (∀ property ∈ edition.properties, property.IsPlain) ∧ edition.imprint.IsPlain)
    ⟨fun ⟨model, properties, imprint⟩ => ⟨model, properties, imprint⟩,
      fun ⟨model, properties, imprint⟩ => ⟨model, properties, imprint⟩⟩

/-- The properties of a plain edition that are written are plain. -/
theorem Edition.IsPlain.of_mem_distinctNames {edition : Edition} (h : edition.IsPlain) :
    ∀ property ∈ distinctNames edition.properties, property.IsPlain :=
  fun property hproperty => h.properties property (mem_of_mem_distinctNames hproperty)

namespace Target

variable {target : Target} {edition : Edition}

/-- What stands below the header of a file without hand edits. -/
def content (target : Target) (edition : Edition) : List String :=
  let properties := distinctNames edition.properties
  (target.imports edition.model properties edition.imprint).toList
    ++ [target.opening edition.model] ++ target.body properties [] ++ target.below edition

/-- What stands below the imports of a file without hand edits. -/
def declaration (target : Target) (edition : Edition) : List String :=
  [target.opening edition.model] ++ target.body (distinctNames edition.properties) []
    ++ target.below edition

/-- Below the header stand the imports and the declaration. -/
theorem content_eq (target : Target) (edition : Edition) :
    target.content edition
      = (target.imports edition.model (distinctNames edition.properties) edition.imprint).toList
        ++ target.declaration edition := by
  simp only [content, declaration, List.append_assoc]

/-- The lines of a declaration begin with its leads. -/
theorem ledBy_of_mem_declaration (h : edition.IsPlain) {text : String}
    (htext : text ∈ target.declaration edition) : LedBy target.leads text := by
  simp only [declaration, below, List.mem_append, List.mem_singleton, Option.mem_toList] at htext
  rcases htext with (rfl | htext) | htext | rfl
  · exact (ledBy_opening target h.model).mono target.frameLeads_subset_leads
  · obtain ⟨property, hproperty, rfl⟩ := List.mem_map.1 ((body_perm target _ []).mem_iff.1 htext)
    exact ledBy_propertyText target (h.of_mem_distinctNames property hproperty)
  · exact (ledBy_keyMapping h.of_mem_distinctNames htext).mono target.frameLeads_subset_leads
  · exact (ledBy_closing target).mono target.frameLeads_subset_leads

/-- Below the header, lines begin with the leads of the target. -/
theorem ledBy_of_mem_content (h : edition.IsPlain) {text : String}
    (htext : text ∈ target.content edition) : LedBy (target.importLeads ++ target.leads) text := by
  rw [content_eq, List.mem_append, Option.mem_toList] at htext
  rcases htext with htext | htext
  · exact (ledBy_imports h.model h.of_mem_distinctNames h.imprint.package htext).mono
      (List.subset_append_left _ _)
  · exact (ledBy_of_mem_declaration h htext).mono (List.subset_append_right _ _)

end Target

end PayloadModels
