import Mathlib.Data.String.Basic
import PayloadModels.Generation.Files
import PayloadModels.Proofs.Generation.Beginnings
import PayloadModels.Proofs.Generation.FileNames
import PayloadModels.Proofs.Generation.Updates
import PayloadModels.Proofs.Repetitions
import PayloadModels.Proofs.Samples.Names
import PayloadModels.Proofs.Schema.References
import PayloadModels.Proofs.Schema.TypeNames
import PayloadModels.Proofs.Target.PropertyNames
import PayloadModels.Proofs.Text.Cutting

/-!
# References between files

In Objective-C and Rust, a file names the files of other models: an implementation file imports
headers, a header announces classes, and a Rust file brings models into scope from the modules
beside it. `Target.references` reads these places back from the text of a file. What a file names
are the models that its properties mention, other than its own, and an implementation file names its
own header before them (`Target.references_fileOf`). Since a set of models is closed, all files that
are named are there (`Generator.references_closed`).
-/

namespace PayloadModels

open Naming

/-!
## What runs write

Whatever the payloads hold, the names in the files of a run stand on one line each: names of models
and of properties have no line feed, since they are made from words (`Target.not_mem_propertyName`).
So the editions of a run are plain when the texts of its header are (`ModelSet.isPlain_edition`).
-/

/-- The properties of a model that was inferred from objects are plain. -/
theorem ObservedModel.isPlain_of_mem_properties (target : Target) {objects : List Json.Members}
    {property : Property}
    (h : property ∈ (objects.foldl record ∅).properties target.propertyName) :
    property.IsPlain := by
  refine ⟨?_, fun model hmodel => ?_⟩
  · obtain ⟨field, -, rfl⟩ := List.mem_map.1 h
    exact Target.not_mem_propertyName (by decide) target field.key
  · rw [eq_of_mem_modelName?_property h hmodel]
    exact (isNameText_upperCamel property.key).not_mem_newline

/-- Whatever was shown to a set of models, the properties of its models are plain. -/
theorem ModelSet.isPlain_of_mem_properties {sightings : List Sighting} {name : String}
    {model : ObservedModel} (hmodel : (name, model) ∈ (ofSightings sightings).models)
    (target : Target) : ∀ property ∈ model.properties target.propertyName, property.IsPlain := by
  rw [models_ofSightings, List.mem_map] at hmodel
  obtain ⟨other, -, heq⟩ := hmodel
  cases heq
  exact fun property hproperty => ObservedModel.isPlain_of_mem_properties target hproperty

/-- What a run with a valid configuration writes of a model is plain when its imprint is. -/
theorem ModelSet.isPlain_edition {disk : Disk} {config : Config} {set : ModelSet}
    (hvalid : config.validate = .ok ()) (hset : ofConfig disk config = .ok set) {name : String}
    {model : ObservedModel} (hmodel : (name, model) ∈ set.models) (target : Target)
    {imprint : Imprint} (himprint : imprint.IsPlain) :
    Edition.IsPlain ⟨name, model.properties target.propertyName, imprint⟩ := by
  have hname : name ∈ set.names := List.mem_map_of_mem hmodel
  refine ⟨?_, ?_, himprint⟩
  · exact (isNameText_of_mem_names_ofConfig hvalid hset name hname).not_mem_newline
  · rw [ofConfig_eq, map_eq_ok_iff] at hset
    obtain ⟨shown, -, rfl⟩ := hset
    exact isPlain_of_mem_properties hmodel target

/-! ## Places where models are named -/

/-- A place where a file names the model of another file. -/
structure Reference where
  file : String
  model : String
  deriving DecidableEq, Repr

/-- The reference to the header of a model. -/
def Reference.toHeader (model : List Char) : Reference :=
  ⟨String.ofList model ++ ".h", String.ofList model⟩

namespace Target

/-! ## Reading references -/

/-- What a line that names other files begins with. -/
def referenceMark? : Target → Option String
  | swift | kotlin => none
  | objcSource => some "#import \""
  | objcHeader => some "@class "
  | rust => some "use super::"

/-- The references of a line behind its mark. -/
def referencesAfter (target : Target) (rest : List Char) : List Reference :=
  match target with
  | swift | kotlin => []
  | objcSource => ((".h\"".toList.isSuffixOf? rest).map Reference.toHeader).toList
  | objcHeader =>
    (";".toList.isSuffixOf? rest).elim [] fun names =>
      (names.splitOn ',').map fun name => .toHeader (name.dropWhile (· = ' '))
  | rust =>
    let names := (";".toList.isSuffixOf? rest).bind (Text.cutAt "::".toList)
    (names.map fun (file, model) => ⟨String.ofList file ++ ".rs", String.ofList model⟩).toList

/-- The references of a line. -/
def lineReferences (target : Target) (line : String) : List Reference :=
  (target.referenceMark?.bind (Text.after? · line.toList)).elim [] target.referencesAfter

/-- The places where a text names the models of other files, in order. -/
def references (target : Target) (text : String) : List Reference :=
  (Text.lines text).flatMap target.lineReferences

/-- How the target refers to a model. -/
def reference (target : Target) (model : String) : Reference :=
  match target with
  | rust => ⟨rust.fileName model, model⟩
  | swift | kotlin | objcSource | objcHeader => ⟨objcHeader.fileName model, model⟩

variable {target : Target}

/-- The references of two texts with a break between them are those of both. -/
theorem references_append_newline (target : Target) (a b : String) :
    target.references (a ++ "\n" ++ b) = target.references a ++ target.references b := by
  rw [references, Text.lines_append_newline, List.flatMap_append, references, references]

@[simp] theorem lineReferences_empty (target : Target) : target.lineReferences "" = [] := by
  cases target <;> rfl

@[simp] theorem references_empty (target : Target) : target.references "" = [] := by
  have hempty : Text.lines "" = [""] := by decide
  rw [references, hempty]
  simp

@[simp] theorem references_append_end (target : Target) (text : String) :
    target.references (text ++ "\n") = target.references text := by
  rw [← String.append_empty (s := text ++ "\n"), references_append_newline, references_empty,
    List.append_nil]

/-- The references of texts below each other are those of each. -/
theorem references_unlines (target : Target) (texts : List String) :
    target.references (Text.unlines texts) = texts.flatMap target.references := by
  cases texts with
  | nil => exact target.references_empty
  | cons text texts =>
    rw [references, Text.lines_unlines (List.cons_ne_nil text texts), List.flatMap_assoc]
    rfl

/-- A line makes no reference when its beginning is neither that of a mark nor begins with one. -/
def IsSilent (target : Target) (lead : String) : Prop :=
  ∀ mark ∈ target.referenceMark?, ¬ mark.toList <+: lead.toList ∧ ¬ lead.toList <+: mark.toList

instance (target : Target) (lead : String) : Decidable (target.IsSilent lead) :=
  inferInstanceAs (Decidable (∀ mark ∈ target.referenceMark?, _))

/-- A line refers to nothing when its beginning tells. -/
theorem lineReferences_eq_nil {lead line : String} (hlead : target.IsSilent lead)
    (hbegins : lead.toList <+: line.toList) : target.lineReferences line = [] := by
  rw [lineReferences]
  cases hmark : target.referenceMark? with
  | none => rfl
  | some mark =>
    rw [Option.bind_some, Text.after?_eq_none_of_isPrefix (hlead mark hmark) hbegins]
    rfl

/-- A text makes no reference when no beginning of its lines does. -/
theorem references_eq_nil {leads : List String} {text : String} (h : LedBy leads text)
    (hleads : ∀ lead ∈ leads, target.IsSilent lead) : target.references text = [] := by
  rw [references, List.flatMap_eq_nil_iff]
  intro line hline
  rcases h line hline with rfl | ⟨lead, hlead, hbegins⟩
  · exact target.lineReferences_empty
  · exact lineReferences_eq_nil (hleads lead hlead) hbegins

/-- What the lines of a declaration begin with refers to nothing. -/
theorem isSilent_of_mem_leads {lead : String} (h : lead ∈ target.leads) : target.IsSilent lead := by
  revert lead
  cases target <;> decide

/-! ## The references of imports -/

/-- What a line refers to is read behind its mark. -/
theorem lineReferences_append {mark : String} (hmark : target.referenceMark? = some mark)
    (rest : String) :
    target.lineReferences (mark ++ rest) = target.referencesAfter rest.toList := by
  rw [lineReferences, hmark, Option.bind_some, String.toList_append, Text.after?_append]
  rfl

/-- A text on one line refers to what the line does. -/
theorem references_eq_lineReferences (target : Target) {line : String} (h : '\n' ∉ line.toList) :
    target.references line = target.lineReferences line := by
  rw [references, Text.lines_eq_singleton h, List.flatMap_singleton]

/-- The reference to a header names the header's file. -/
theorem toHeader_toList (model : String) :
    Reference.toHeader model.toList = objcHeader.reference model := by
  have hfile : model ++ ".h" = objcHeader.fileName model := by
    rw [fileName_eq, String.append_assoc]
    rfl
  rw [Reference.toHeader, String.ofList_toList, hfile]
  rfl

/-- An import of a header. -/
theorem references_headerImport {name : String} (h : '\n' ∉ name.toList) :
    objcSource.references ("#import \"" ++ name ++ ".h\"") = [objcSource.reference name] := by
  have hname : ".h\"".toList.isSuffixOf? (name ++ ".h\"").toList = some name.toList :=
    List.isSuffixOf?_eq_some_iff_append_eq.2 (String.toList_append ..).symm
  have hrest : objcSource.referencesAfter (name ++ ".h\"").toList
      = [objcSource.reference name] := by
    rw [referencesAfter, hname, Option.map_some, toHeader_toList]
    rfl
  rw [references_eq_lineReferences _ (by simp [h]), String.append_assoc, lineReferences_append rfl,
    hrest]

/-- Names that are joined by commas are split there again. -/
theorem splitOn_intercalate {name : String} {names : List String}
    (h : ∀ text ∈ name :: names, ',' ∉ text.toList) :
    (", ".intercalate (name :: names)).toList.splitOn ','
      = name.toList :: names.map fun text => ' ' :: text.toList := by
  induction names generalizing name with
  | nil =>
    rw [String.intercalate_singleton, List.splitOn_eq_singleton (h name List.mem_cons_self)]
    rfl
  | cons next names ih =>
    obtain ⟨hname, hrest⟩ := List.forall_mem_cons.1 h
    have hjoin : (", ".intercalate (name :: next :: names)).toList
        = name.toList ++ ',' :: ([' '] ++ (", ".intercalate (next :: names)).toList) := by
      rw [String.intercalate_cons_cons]
      simp
    rw [hjoin, List.splitOn_append_cons_self, List.splitOn_eq_singleton hname,
      Text.splitOn_append_of_not_mem (by decide), ih hrest]
    rfl

/-- A forward declaration refers to what its commas separate. -/
theorem references_classLine {names : String} (h : '\n' ∉ names.toList) :
    objcHeader.references ("\n@class " ++ names ++ ";\n")
      = (names.toList.splitOn ',').map fun name => .toHeader (name.dropWhile (· = ' ')) := by
  have hlines : "\n@class " ++ names ++ ";\n"
      = "" ++ "\n" ++ ("@class " ++ (names ++ ";")) ++ "\n" := by
    apply String.toList_inj.1
    simp
  have hnames : ";".toList.isSuffixOf? (names ++ ";").toList = some names.toList :=
    List.isSuffixOf?_eq_some_iff_append_eq.2 (String.toList_append ..).symm
  rw [hlines, references_append_end, references_append_newline, references_empty, List.nil_append,
    references_eq_lineReferences _ (by simp [h]), lineReferences_append rfl, referencesAfter,
    hnames]
  rfl

/-- A forward declaration of classes. -/
theorem references_forwardDeclaration {names : List String} (hne : names ≠ [])
    (h : ∀ name ∈ names, IsNameText name) :
    objcHeader.references ("\n@class " ++ ", ".intercalate names ++ ";\n")
      = names.map objcHeader.reference := by
  have hnone : ∀ name ∈ names, ∀ c, ¬ IsNameChar c → c ∉ name.toList :=
    fun name hname c hc hmem => hc (h name hname c hmem)
  have hbare : ∀ name ∈ names, name.toList.dropWhile (· = ' ') = name.toList := by
    intro name hname
    have hspace := hnone name hname ' ' (by decide)
    cases hchars : name.toList with
    | nil => rfl
    | cons c cs =>
      rw [hchars, List.mem_cons, not_or] at hspace
      simp [Ne.symm hspace.1]
  rw [references_classLine (Text.not_mem_intercalate (by decide) fun name hname =>
    hnone name hname '\n' (by decide))]
  obtain ⟨name, names, rfl⟩ := List.exists_cons_of_ne_nil hne
  obtain ⟨hfirst, hothers⟩ := List.forall_mem_cons.1 hbare
  rw [splitOn_intercalate fun text htext => hnone text htext ',' (by decide), List.map_cons,
    List.map_cons, List.map_map, hfirst, toHeader_toList]
  refine congrArg _ (List.map_congr_left fun other hother => ?_)
  simp [hothers other hother, toHeader_toList]

/-- The line that brings a model into scope. -/
theorem references_useLine {name : String} (h : IsNameText name) :
    rust.references ("use super::" ++ snake name ++ "::" ++ name ++ ";")
      = [rust.reference name] := by
  have hsnake := isNameText_snake name
  have hcolon : ':' ∉ (snake name).toList := fun hmem => not_isNameChar_colon (hsnake ':' hmem)
  have hnames : ";".toList.isSuffixOf? (snake name ++ "::" ++ name ++ ";").toList
      = some (snake name ++ "::" ++ name).toList :=
    List.isSuffixOf?_eq_some_iff_append_eq.2 (String.toList_append ..).symm
  have hcut : Text.cutAt "::".toList (snake name ++ "::" ++ name).toList
      = some ((snake name).toList, name.toList) := by
    have hchars : (snake name ++ "::" ++ name).toList
        = (snake name).toList ++ ':' :: ([':'] ++ name.toList) := by simp
    rw [hchars]
    exact Text.cutAt_append hcolon [':'] name.toList
  have hline : '\n' ∉ ("use super::" ++ (snake name ++ "::" ++ name ++ ";")).toList := by
    simp [hsnake.not_mem_newline, h.not_mem_newline]
  have hjoin : "use super::" ++ snake name ++ "::" ++ name ++ ";"
      = "use super::" ++ (snake name ++ "::" ++ name ++ ";") := by
    simp only [String.append_assoc]
  rw [hjoin, references_eq_lineReferences _ hline, lineReferences_append rfl, referencesAfter,
    hnames, Option.bind_some, hcut]
  simp [reference, fileName]

/-- The line with which an implementation file imports its own header. -/
def ownImport (target : Target) (model : String) : String :=
  if target = objcSource then "#import \"" ++ model ++ ".h\"\n" else ""

/-- What a file refers to for its own model. -/
def ownReferences (target : Target) (model : String) : List Reference :=
  if target = objcSource then [target.reference model] else []

/-- An implementation refers to its own header first. -/
theorem references_ownImport (target : Target) {model : String} (h : '\n' ∉ model.toList)
    (text : String) : target.references (target.ownImport model ++ text)
      = target.ownReferences model ++ target.references text := by
  rw [ownImport, ownReferences]
  split
  · next heq =>
    have hjoin : "#import \"" ++ model ++ ".h\"\n" ++ text
        = "#import \"" ++ model ++ ".h\"" ++ "\n" ++ text := by
      apply String.toList_inj.1
      simp
    rw [hjoin, references_append_newline, heq, references_headerImport h]
  · rw [String.empty_append]
    rfl

variable {model : String} {properties : List Property} {edition : Edition}

/-- Lines that refer to one model each refer to the models in order. -/
theorem flatMap_references_map {names : List String} {line : String → String}
    (h : ∀ name ∈ names, target.references (line name) = [target.reference name]) :
    (names.map line).flatMap target.references = names.map target.reference := by
  rw [List.flatMap_map, List.flatMap_congr h, ← List.map_eq_flatMap]

/-- The mentioned models are sorted, and each is there once. -/
theorem pairwise_mentionedModels (model : String) (properties : List Property) :
    (mentionedModels model properties).Pairwise (· < ·) := by
  have hsorted := pairwise_mergeSort_of_key id (fun _ _ => decide_eq_true_iff)
    ((properties.filterMap (·.type.modelName?)).filter (· ≠ model))
  exact pairwise_lt_eraseReps hsorted

/-- An implementation file imports headers, behind its own. -/
theorem exists_imports_objcSource
    (h : ∀ name ∈ mentionedModels model properties, IsNameText name) (imprint : Imprint) :
    ∃ text, objcSource.imports model properties imprint
        = some (objcSource.ownImport model ++ text) ∧
      objcSource.references text
        = (mentionedModels model properties).map objcSource.reference := by
  have hheaders : objcSource.references (Text.unlines
      ((mentionedModels model properties).map fun name => "#import \"" ++ name ++ ".h\""))
      = (mentionedModels model properties).map objcSource.reference := by
    rw [references_unlines]
    exact flatMap_references_map fun name hname =>
      references_headerImport (h name hname).not_mem_newline
  cases hmentioned : mentionedModels model properties with
  | nil =>
    refine ⟨"", ?_, references_empty _⟩
    simp only [imports, hmentioned, ownImport, if_true, List.map_cons, List.map_nil]
    simp [Text.unlines, String.append_assoc]
  | cons name names =>
    rw [hmentioned] at hheaders
    refine ⟨Text.unlines ((name :: names).map fun name => "#import \"" ++ name ++ ".h\"") ++ "\n",
      ?_, (references_append_end _ _).trans hheaders⟩
    simp only [imports, hmentioned, ownImport, if_true, List.map_cons]
    simp [Text.unlines, String.append_assoc]

/-- A header announces classes, behind the import of the framework. -/
theorem exists_imports_objcHeader
    (h : ∀ name ∈ mentionedModels model properties, IsNameText name) (imprint : Imprint) :
    ∃ text, objcHeader.imports model properties imprint = some text ∧
      objcHeader.references text
        = (mentionedModels model properties).map objcHeader.reference := by
  refine ⟨_, rfl, ?_⟩
  have hframework : "#import <Foundation/Foundation.h>\n"
      = "#import <Foundation/Foundation.h>" ++ "\n" := rfl
  have hsilent : objcHeader.references "#import <Foundation/Foundation.h>" = [] := by decide
  rw [hframework, references_append_newline, hsilent, List.nil_append]
  split
  · next hnone =>
    rw [List.isEmpty_iff.1 hnone]
    exact references_empty _
  · next hsome => exact references_forwardDeclaration (mt List.isEmpty_iff.2 hsome) h

/-- A Rust file brings models into scope from the modules beside it. -/
theorem exists_imports_rust
    (h : ∀ name ∈ mentionedModels model properties, IsNameText name) (imprint : Imprint) :
    ∃ text, rust.imports model properties imprint = some text ∧
      rust.references text = (mentionedModels model properties).map rust.reference := by
  refine ⟨_, rfl, ?_⟩
  have hserde : rust.references "use serde::\x7bDeserialize, Serialize\x7d;" = [] := by decide
  have hgap : ∀ uses : List String,
      (if uses.isEmpty then [] else [""]).flatMap rust.references = [] := by
    intro uses
    split <;> simp
  rw [references_append_end, references_unlines, List.flatMap_append, List.flatMap_cons, hserde,
    hgap]
  exact flatMap_references_map fun name hname => references_useLine (h name hname)

/-- Imports refer to the models that are mentioned, in order. -/
theorem references_imports (htarget : target.referenceMark?.isSome)
    (h : ∀ name ∈ mentionedModels model properties, IsNameText name) (imprint : Imprint) :
    ∃ text, target.imports model properties imprint = some (target.ownImport model ++ text) ∧
      target.references text = (mentionedModels model properties).map target.reference := by
  cases target with
  | swift | kotlin => cases htarget
  | objcSource => exact exists_imports_objcSource h imprint
  | objcHeader =>
    obtain ⟨text, himports, htext⟩ := exists_imports_objcHeader h imprint
    exact ⟨text, himports.trans (congrArg some (String.empty_append ..).symm), htext⟩
  | rust =>
    obtain ⟨text, himports, htext⟩ := exists_imports_rust h imprint
    exact ⟨text, himports.trans (congrArg some (String.empty_append ..).symm), htext⟩

/-! ## The references of a file -/

/-- A header refers to nothing. -/
theorem references_header (target : Target) {imprint : Imprint} (h : imprint.IsPlain)
    {fileName : String} (hfile : '\n' ∉ fileName.toList) :
    target.references (imprint.header fileName target.lineComment) = [] := by
  refine references_eq_nil (Imprint.ledBy_header h hfile target) ?_
  cases target <;> decide

/-- A file refers to its own header if it is an implementation file, and then to the models that its
properties mention. -/
theorem references_fileOf (htarget : target.referenceMark?.isSome) (h : edition.IsPlain)
    (hnames : ∀ name ∈ mentionedModels edition.model (distinctNames edition.properties),
      IsNameText name) :
    target.references (target.fileOf edition []) = target.ownReferences edition.model
      ++ (mentionedModels edition.model (distinctNames edition.properties)).map
        target.reference := by
  obtain ⟨text, himports, htext⟩ := references_imports htarget hnames edition.imprint
  have hdeclaration : (target.declaration edition).flatMap target.references = [] :=
    List.flatMap_eq_nil_iff.2 fun text htext =>
      references_eq_nil (ledBy_of_mem_declaration h htext) fun _ => isSilent_of_mem_leads
  rw [fileOf_eq_content, references_unlines, List.flatMap_cons, content_eq, himports,
    references_header target h.imprint (target.not_mem_fileName h.model), List.flatMap_append,
    hdeclaration, Option.toList_some, List.flatMap_singleton, references_ownImport target h.model,
    htext]
  simp

end Target

namespace Generator

variable {generator : Generator} {set : ModelSet}

/-- The files that are rendered are those of the models of the set. -/
theorem map_fst_rendered (generator : Generator) (set : ModelSet) :
    (generator.rendered set).map (·.1) = generator.language.fileNames set.names := by
  rw [rendered, Language.fileNames, ModelSet.names, List.flatMap_map, List.map_flatMap]
  simp [List.map_map, Function.comp_def]

/-- The file of a model for a target names just some models, and these have files. -/
structure NamesJust (generator : Generator) (set : ModelSet) (name : String) (model : ObservedModel)
    (target : Target) (mentioned : List String) : Prop where
  /-- The models are sorted, and each is there once. -/
  sorted : mentioned.Pairwise (· < ·)
  /-- They are those that the kept properties mention, other than the file's own. -/
  mem_iff : ∀ mention, mention ∈ mentioned ↔ mention ≠ name ∧
    ∃ property ∈ distinctNames (model.properties target.propertyName),
      mention ∈ property.type.modelName?
  /-- The file that a reference names is among those that are rendered. -/
  exists_file : ∀ mention ∈ mentioned,
    ∃ file ∈ generator.rendered set, file.1 = (target.reference mention).file
  /-- The imports name them in this order, behind the own header. -/
  imports : ∃ text,
    target.imports name (distinctNames (model.properties target.propertyName)) generator.imprint
      = some (target.ownImport name ++ text) ∧
    target.references text = mentioned.map target.reference
  /-- So does the whole file, when the header and the name stand on lines of their own. -/
  contents : generator.imprint.IsPlain → '\n' ∉ name.toList →
    target.references (generator.file none name model target).contents
      = target.ownReferences name ++ mentioned.map target.reference

end Generator

/-- In Objective-C and Rust, files name other files, which the language has a target for. -/
theorem Language.exists_target_of_reference {language : Language}
    (hlanguage : language = .objectiveC ∨ language = .rust) {target : Target}
    (htarget : target ∈ language.targets) : target.referenceMark?.isSome ∧
      ∃ other ∈ language.targets,
        ∀ model, (target.reference model).file = other.fileName model := by
  rcases hlanguage with rfl | rfl
  · rcases List.mem_pair.1 htarget with rfl | rfl
    · exact ⟨rfl, .objcHeader, by decide, fun _ => rfl⟩
    · exact ⟨rfl, .objcHeader, by decide, fun _ => rfl⟩
  · rw [List.mem_singleton.1 htarget]
    exact ⟨rfl, .rust, by decide, fun _ => rfl⟩

namespace Generator

/-- A set of models is closed under references, and so are the files that it is written to: what the
type of a property mentions is a model of the set, named by the key of the property; and in
Objective-C and Rust each file names just the models that its properties mention, which have files
of the names that it gives. -/
theorem references_closed (sightings : List Sighting) (generator : Generator) :
    let set := ModelSet.ofSightings sightings
    (∀ name model, (name, model) ∈ set.models → ∀ propertyName : String → String,
      ∀ property ∈ model.properties propertyName, ∀ mention ∈ property.type.modelName?,
        mention = upperCamel property.key ∧ mention ∈ set.names) ∧
    (generator.language = .objectiveC ∨ generator.language = .rust →
      ∀ name model, (name, model) ∈ set.models → ∀ target ∈ generator.language.targets,
        (target.fileName name, (generator.file none name model target).contents)
            ∈ generator.rendered set ∧
          ∃ mentioned, generator.NamesJust set name model target mentioned) := by
  intro set
  have hclosed : ∀ name model, (name, model) ∈ set.models → ∀ propertyName : String → String,
      ∀ property ∈ model.properties propertyName, ∀ mention ∈ property.type.modelName?,
        mention = upperCamel property.key ∧ mention ∈ set.names :=
    fun _ _ hmodel _ _ hproperty _ => ModelSet.mem_names_of_mem_modelName? hmodel hproperty
  refine ⟨hclosed, fun hlanguage name model hmodel target htarget => ⟨?_, ?_⟩⟩
  · exact List.mem_flatMap.2 ⟨(name, model), hmodel, List.mem_map.2 ⟨target, htarget, rfl⟩⟩
  let properties := model.properties target.propertyName
  obtain ⟨hmark, other, hother, hfile⟩ := Language.exists_target_of_reference hlanguage htarget
  have hmentioned : ∀ mention ∈ Target.mentionedModels name (distinctNames properties),
      mention ∈ set.names ∧ IsNameText mention := by
    intro mention hmention
    obtain ⟨property, hproperty, htype⟩ := Target.exists_of_mem_mentionedModels hmention
    obtain ⟨hname, hmem⟩ := hclosed name model hmodel _ property
      (mem_of_mem_distinctNames hproperty) mention htype
    exact ⟨hmem, hname ▸ isNameText_upperCamel property.key⟩
  have hnames := fun mention hmention => (hmentioned mention hmention).2
  refine ⟨Target.mentionedModels name (distinctNames properties),
    Target.pairwise_mentionedModels _ _, fun _ => Target.mem_mentionedModels, ?_,
    Target.references_imports hmark hnames _, fun himprint hname => ?_⟩
  · intro mention hmention
    have hmem : other.fileName mention ∈ (generator.rendered set).map (·.1) := by
      rw [map_fst_rendered]
      exact List.mem_flatMap.2
        ⟨mention, (hmentioned mention hmention).1, List.mem_map_of_mem hother⟩
    obtain ⟨file, hrendered, heq⟩ := List.mem_map.1 hmem
    exact ⟨file, hrendered, heq.trans (hfile mention).symm⟩
  · have hplain : Edition.IsPlain ⟨name, properties, generator.imprint⟩ :=
      ⟨hname, ModelSet.isPlain_of_mem_properties hmodel target, himprint⟩
    exact Target.references_fileOf hmark hplain hnames

/-- An order holds another order, a list of customers and items of which the first is a number: the
file of orders imports its own header first and the one of customers, which is rendered, too. -/
theorem references_closed_orders :
    let sightings : List Sighting :=
      [.object "Order" [("order", .obj []), ("customer", .arr [.obj []]),
        ("items", .arr [.num (.int 1), .obj [("id", .num (.int 2))]])]]
    let generator : Generator :=
      ⟨.objectiveC, ⟨"Shop", none, none, none, ⟨2018, 1, 4⟩⟩, ⟨"Models"⟩⟩
    let model : ObservedModel := (objectsOf "Order" sightings).foldl .record ∅
    (generator.language = .objectiveC ∧ generator.imprint.IsPlain ∧
        ("Order", model) ∈ (ModelSet.ofSightings sightings).models) ∧
      ∃ mentioned : List String, "Customer" ∈ mentioned ∧
        Target.objcSource.references (generator.file none "Order" model .objcSource).contents
          = ⟨"Order.h", "Order"⟩ :: mentioned.map Target.objcSource.reference ∧
        ∃ file ∈ generator.rendered (.ofSightings sightings), file.1 = "Customer.h" := by
  intro sightings generator model
  have hplain : generator.imprint.IsPlain := by decide
  have hnames : "Order" ∈ (ModelSet.namesSeen sightings).eraseDups := by decide
  have hmodel : ("Order", model) ∈ (ModelSet.ofSightings sightings).models := by
    rw [ModelSet.models_ofSightings]
    exact List.mem_map.2 ⟨"Order", hnames, rfl⟩
  obtain ⟨-, hfiles⟩ := references_closed sightings generator
  obtain ⟨-, mentioned, hmentioned⟩ :=
    hfiles (.inl rfl) "Order" model hmodel .objcSource (by decide)
  have hcustomer : "Customer" ∈ mentioned := by
    rw [hmentioned.mem_iff]
    decide
  exact ⟨⟨rfl, hplain, hmodel⟩, mentioned, hcustomer, hmentioned.contents hplain (by decide),
    hmentioned.exists_file "Customer" hcustomer⟩

end Generator

end PayloadModels
