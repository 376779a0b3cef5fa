import PayloadModels.Proofs.Target.WireKeys
import PayloadModels.Target.PropertyText

/-!
# The lines that declare properties

The text that is written for a property has one line that declares it, which is the last, and
whatever goes on behind that line, it declares the same property (`Target.exists_declares`). When
someone tags the line, it is what is kept, and what stood above it is written again, save for the
loop that fills a list of models in Objective-C (`Target.IsLoop`). What a line begins with tells
that it declares nothing (`Target.declared?_eq_none`).
-/

namespace PayloadModels

open Naming Unicode

/-- A property as models have it: it is named by its key, and its type mentions models by names. -/
structure Property.IsNamed (target : Target) (property : Property) : Prop where
  name : property.name = target.propertyName property.key
  type : ∀ model ∈ property.type.modelName?, IsNameText model

namespace Property.IsNamed

variable {target : Target} {property : Property} {c : Char}

/-- A property's name has only characters of names, backquotes and hashes. -/
theorem not_mem_name (h : property.IsNamed target) (hc : ¬ (IsNameChar c ∨ c = '\x60' ∨ c = '#')) :
    c ∉ property.name.toList := h.name ▸ Target.not_mem_propertyName hc target property.key

/-- The names of mentioned models have only characters of names. -/
theorem not_mem_model (h : property.IsNamed target) (hc : ¬ IsNameChar c) :
    ∀ model ∈ property.type.modelName?, c ∉ model.toList :=
  fun model hmodel hmem => hc (h.type model hmodel c hmem)

/-- A property's name has no blank. -/
theorem isBlank_name (h : property.IsNamed target) :
    ∀ c ∈ property.name.toList, isBlank c = false := by
  rw [h.name]
  exact fun _ => Target.isBlank_of_mem_propertyName

/-- The names that a property brings along stand on one line each. -/
theorem isPlain (h : property.IsNamed target) : property.IsPlain :=
  ⟨h.not_mem_name (by decide), h.not_mem_model (by decide)⟩

/-- A property's name does not hold the mark of hand edits. -/
theorem unmarked_name (h : property.IsNamed target) : Unmarked property.name :=
  unmarked_of_not_mem (h.not_mem_name (by decide))

/-- A property's type does not hold the mark of hand edits. -/
theorem isUnmarked_type (h : property.IsNamed target) : property.type.IsUnmarked :=
  fun model hmodel => unmarked_of_not_mem (h.not_mem_model (by decide) model hmodel)

/-- A property holds the mark of hand edits only if its key does. -/
theorem isUnmarked (h : property.IsNamed target) (hkey : Unmarked property.key) :
    property.IsUnmarked := ⟨hkey, h.unmarked_name, h.isUnmarked_type⟩

end Property.IsNamed

namespace Target

variable {target : Target} {property : Property}

/-! ## Lines that declare nothing -/

/-- What a line that declares a property begins with, behind blanks. In Kotlin it may begin with
anything. -/
def declarationMarks : Target → List String
  | swift => ["let ", "var "]
  | kotlin => [""]
  | objcSource => ["_"]
  | objcHeader => ["@property"]
  | rust => ["pub "]

/-- A line that declares a property begins as such lines do, behind blanks. -/
theorem exists_mark_of_declared? {line name : String} (h : target.declared? line = some name) :
    ∃ mark ∈ target.declarationMarks, mark.toList <+: Text.trimStart line.toList := by
  unfold declared? at h
  cases target with
  | swift =>
    obtain ⟨rest, hrest, -⟩ := Option.bind_eq_some_iff.1 h
    rcases Option.or_eq_some_iff.1 (Option.orElse_eq_or.symm.trans hrest) with hlet | ⟨-, hvar⟩
    · exact ⟨"let ", by decide, Text.prefix_of_after? hlet⟩
    · exact ⟨"var ", by decide, Text.prefix_of_after? hvar⟩
  | kotlin => exact ⟨"", by decide, List.nil_prefix⟩
  | objcSource =>
    obtain ⟨rest, hrest, -⟩ := Option.bind_eq_some_iff.1 h
    exact ⟨"_", by decide, Text.prefix_of_after? hrest⟩
  | objcHeader =>
    refine ⟨"@property", by decide, ?_⟩
    dsimp only at h
    rw [objcDeclared?] at h
    split at h
    · next hmark =>
      have htrimmed : Text.trim line.toList <+: Text.trimStart line.toList :=
        Text.dropEndWhile_prefix isBlank _
      exact (List.isPrefixOf_iff_prefix.1 hmark).trans htrimmed
    · cases h
  | rust =>
    obtain ⟨rest, hrest, -⟩ := Option.bind_eq_some_iff.1 h
    exact ⟨"pub ", by decide, Text.prefix_of_after? hrest⟩

/-- A line declares nothing when its beginning, behind blanks, is neither that of a mark nor begins
with one. -/
def IsQuiet (target : Target) (lead : String) : Prop :=
  ∀ mark ∈ target.declarationMarks, ¬ mark.toList <+: Text.trimStart lead.toList ∧
    ¬ Text.trimStart lead.toList <+: mark.toList

instance (target : Target) (lead : String) : Decidable (target.IsQuiet lead) :=
  inferInstanceAs (Decidable (∀ mark ∈ target.declarationMarks, _))

/-- A line declares nothing when its beginning tells. -/
theorem declared?_eq_none {lead line : String} (hlead : target.IsQuiet lead)
    (hbegins : lead.toList <+: line.toList) : target.declared? line = none := by
  refine Option.eq_none_iff_forall_ne_some.2 fun name hname => ?_
  obtain ⟨mark, hmark, hline⟩ := exists_mark_of_declared? hname
  obtain ⟨hnot, hnever⟩ := hlead mark hmark
  obtain ⟨rest, hrest⟩ := hbegins
  have hvisible : Text.trimStart lead.toList ≠ [] := fun hempty =>
    hnever (hempty ▸ List.nil_prefix)
  rw [← hrest, Text.trimStart_append hvisible] at hline
  exact (List.prefix_or_prefix_of_prefix hline (List.prefix_append _ rest)).elim hnot hnever

@[simp] theorem declared?_empty (target : Target) : target.declared? "" = none := by
  cases target <;> rfl

/-- The names of the properties that the lines of a text declare, in order. -/
def declaredNames (target : Target) (text : String) : List String :=
  (Text.lines text).filterMap target.declared?

/-- Texts below each other declare what each of them does. -/
theorem declaredNames_unlines (target : Target) (texts : List String) :
    target.declaredNames (Text.unlines texts) = texts.flatMap target.declaredNames := by
  cases texts with
  | nil =>
    have hempty : Text.lines (Text.unlines []) = [""] := by decide
    rw [declaredNames, hempty]
    simp
  | cons text texts =>
    rw [declaredNames, Text.lines_unlines (List.cons_ne_nil text texts), List.filterMap_flatMap]
    rfl

/-- A text declares nothing when no beginning of its lines does. -/
theorem declaredNames_eq_nil {leads : List String} {text : String} (h : LedBy leads text)
    (hleads : ∀ lead ∈ leads, target.IsQuiet lead) : target.declaredNames text = [] := by
  rw [declaredNames, List.filterMap_eq_nil_iff]
  intro line hline
  rcases h line hline with rfl | ⟨lead, hlead, hbegins⟩
  · exact target.declared?_empty
  · exact declared?_eq_none (hleads lead hlead) hbegins

/-! ## Lines that declare a property -/

/-- A name is read that stands before a mark, with blanks between them or not. -/
theorem nameBefore?_append {mark : Char} {name : String} {gap : List Char}
    (hmark : mark ∉ name.toList ++ gap) (hname : ∀ c ∈ name.toList, isBlank c = false)
    (hgap : ∀ c ∈ gap, isBlank c) (rest : List Char) :
    nameBefore? mark (name.toList ++ gap ++ mark :: rest) = some name := by
  have hcut : Text.cutAt [mark] (name.toList ++ gap ++ mark :: rest)
      = some (name.toList ++ gap, rest) := Text.cutAt_append hmark [] rest
  have htrim : String.ofList (Text.trim (name.toList ++ gap)) = name := by
    rw [Text.trim_append hname hgap, String.ofList_toList]
  rw [nameBefore?, hcut]
  exact congrArg some htrim

/-- The last piece of a text is what stands behind the last blank or star. -/
theorem lastPiece_append {sep : Char} (hsep : isBlank sep ∨ sep = '*') (front : List Char)
    {name : List Char} (hname : ∀ c ∈ name, isBlank c = false ∧ c ≠ '*') :
    lastPiece (front ++ sep :: name) = name := by
  have hreverse : (front ++ sep :: name).reverse = name.reverse ++ sep :: front.reverse := by simp
  have hkept : ∀ c ∈ name.reverse, (!(isBlank c || c = '*')) = true := by
    intro c hc
    obtain ⟨hblank, hstar⟩ := hname c (List.mem_reverse.1 hc)
    simp [hblank, hstar]
  have hstop : (!(isBlank sep || sep = '*')) = false := by
    rcases hsep with hsep | hsep <;> simp [hsep]
  rw [lastPiece, hreverse, List.takeWhile_append_of_pos hkept, List.takeWhile_cons, hstop,
    if_neg Bool.false_ne_true, List.append_nil, List.reverse_reverse]

/-- An Objective-C property that is a list of models, which a loop fills. -/
def IsLoop (target : Target) (property : Property) : Prop :=
  target = objcSource ∧ ∃ model, property.type = .array (.object model)

/-- The text of a property is a line that declares it, whatever goes on behind that line, and lines
above it that declare nothing. Above the line as it was edited stand the same lines, unless the text
is a loop: then they are lost. -/
structure Declares (target : Target) (property : Property) (above : List String) (line : String) :
    Prop where
  propertyText_eq : target.propertyText property = Text.unlines (above ++ [line])
  not_mem_newline : ∀ text ∈ above ++ [line], '\n' ∉ text.toList
  declared?_above : ∀ text ∈ above, target.declared? text = none
  declared?_line : ∀ rest, target.declared? (line ++ rest) = some property.name
  editedText_eq : ¬ target.IsLoop property → ∀ rest,
    target.editedText property (line ++ rest) = Text.unlines (above ++ [line ++ rest])
  editedText_loop : target.IsLoop property →
    above ≠ [] ∧ ∀ rest, target.editedText property (line ++ rest) = line ++ rest

namespace Declares

variable {above : List String} {line : String}

/-- The text of a property is the line that declares it, below other lines. -/
theorem lines_propertyText (h : target.Declares property above line) :
    Text.lines (target.propertyText property) = above ++ [line] := by
  rw [h.propertyText_eq, Text.lines_unlines_of_not_mem (by simp) h.not_mem_newline]

/-- The line that declares a property declares its name. -/
theorem declared?_eq (h : target.Declares property above line) :
    target.declared? line = some property.name := by
  simpa using h.declared?_line ""

/-- The text of a property declares that property, and no other. -/
theorem declaredNames_propertyText (h : target.Declares property above line) :
    target.declaredNames (target.propertyText property) = [property.name] := by
  rw [declaredNames, h.lines_propertyText, List.filterMap_append,
    List.filterMap_eq_nil_iff.2 h.declared?_above, List.filterMap_cons_some h.declared?_eq]
  rfl

/-- Above the edited line stands what stood above the line that was generated. -/
theorem lines_editedText (h : target.Declares property above line)
    (hloop : ¬ target.IsLoop property) {rest : String} (hrest : '\n' ∉ rest.toList) :
    Text.lines (target.editedText property (line ++ rest)) = above ++ [line ++ rest] := by
  obtain ⟨habove, hline⟩ := List.forall_mem_append.1 h.not_mem_newline
  rw [h.editedText_eq hloop, Text.lines_unlines_of_not_mem (by simp)]
  refine List.forall_mem_append.2 ⟨habove, List.forall_mem_singleton.2 ?_⟩
  simp [List.forall_mem_singleton.1 hline, hrest]

/-- Of a loop, only the edited line is left. -/
theorem lines_editedText_loop (h : target.Declares property above line)
    (hloop : target.IsLoop property) {rest : String} (hrest : '\n' ∉ rest.toList) :
    Text.lines (target.editedText property (line ++ rest)) = [line ++ rest] := by
  obtain ⟨-, hline⟩ := List.forall_mem_append.1 h.not_mem_newline
  rw [(h.editedText_loop hloop).2, Text.lines_eq_singleton]
  simp [List.forall_mem_singleton.1 hline, hrest]

end Declares

/-- A text that is written as the edited line is, with the generated one in its place. -/
theorem Declares.of_editedText {above : List String} {line : String}
    (hloop : ¬ target.IsLoop property)
    (hedited : ∀ line, target.editedText property line = Text.unlines (above ++ [line]))
    (htext : target.propertyText property = target.editedText property line)
    (habove : ∀ text ∈ above, '\n' ∉ text.toList ∧ target.declared? text = none)
    (hline : '\n' ∉ line.toList)
    (hdeclared : ∀ rest, target.declared? (line ++ rest) = some property.name) :
    target.Declares property above line where
  propertyText_eq := htext.trans (hedited line)
  not_mem_newline := List.forall_mem_append.2
    ⟨fun text h => (habove text h).1, List.forall_mem_singleton.2 hline⟩
  declared?_above text h := (habove text h).2
  declared?_line := hdeclared
  editedText_eq _ rest := hedited (line ++ rest)
  editedText_loop h := absurd h hloop

/-- Only Objective-C implementations have loops. -/
theorem not_isLoop (h : target ≠ .objcSource) : ¬ target.IsLoop property := fun hloop => h hloop.1

/-! ## Swift and Rust -/

/-- In Swift, the text of a property is one line that declares it. -/
theorem declares_swift (h : property.IsNamed swift) :
    swift.Declares property [] (swift.propertyText property) := by
  have hcolon : ':' ∉ property.name.toList ++ [] := by simpa using h.not_mem_name (by decide)
  have htype : '\n' ∉ (swiftType property.type).toList :=
    not_mem_typeName (.inl rfl) .swift h.isPlain.type
  refine .of_editedText (not_isLoop (by decide)) (fun line => by simp [editedText, Text.unlines])
    rfl (by simp) ?_ fun rest => ?_
  · simp only [propertyText]
    split <;> simp [h.isPlain.name, htype]
  · have htext : (swift.propertyText property ++ rest).toList = "    let ".toList
        ++ (property.name.toList ++ [] ++ ':' :: (" " ++ swiftType property.type
          ++ (if property.isOptional then "?" else "") ++ rest).toList) := by
      simp [propertyText]
    have hafter : ∀ rest,
        Text.after? "let " (Text.trimStart ("    let ".toList ++ rest)) = some rest :=
      Text.after?_trimStart_append (by decide) (by decide)
    rw [declared?, htext, hafter]
    exact nameBefore?_append hcolon h.isBlank_name (by simp) _

/-- The line above a field, if there is one, is the same whatever the field is. -/
theorem exists_withDecodingAttribute_eq (property : Property) : ∃ above : List String,
    (∀ text ∈ above, '\n' ∉ text.toList ∧ rust.declared? text = none) ∧
      ∀ field, withDecodingAttribute property field = Text.unlines (above ++ [field]) := by
  obtain heq | ⟨attributes, hall, heq⟩ := withDecodingAttribute_eq property ""
  · refine ⟨[], by simp, fun field => ?_⟩
    rw [Wire.withDecodingAttribute_append, heq]
    simp [Text.unlines]
  · have hattributes := not_mem_attributes hall
    generalize ", ".intercalate attributes = arguments at hattributes heq
    refine ⟨["    #[serde(" ++ arguments ++ ")]"], ?_, fun field => ?_⟩
    · have hlead : "    #[serde(".toList <+: ("    #[serde(" ++ arguments ++ ")]").toList := by simp
      rw [List.forall_mem_singleton]
      exact ⟨by simp [hattributes], declared?_eq_none (by decide) hlead⟩
    · rw [Wire.withDecodingAttribute_append, heq]
      simp [Text.unlines, String.append_assoc]

/-- In Rust, the text of a property declares it on the last line, below its attribute. -/
theorem exists_declares_rust (h : property.IsNamed rust) :
    ∃ above line, rust.Declares property above line := by
  obtain ⟨above, habove, hfield⟩ := exists_withDecodingAttribute_eq property
  have hcolon : ':' ∉ property.name.toList ++ [] := by simpa using h.not_mem_name (by decide)
  have htype : '\n' ∉ (rustType property.type).toList :=
    not_mem_typeName (.inl rfl) .rust h.isPlain.type
  have hafter : ∀ rest,
      Text.after? "pub " (Text.trimStart ("    pub ".toList ++ rest)) = some rest :=
    Text.after?_trimStart_append (by decide) (by decide)
  refine ⟨above, _, .of_editedText (not_isLoop (by decide)) hfield rfl habove ?_ fun rest => ?_⟩
  · split <;> simp [h.isPlain.name, htype]
  · generalize (if property.isOptional then "Option<" ++ rustType property.type ++ ">"
      else rustType property.type) = type
    have htext : ("    pub " ++ property.name ++ ": " ++ type ++ "," ++ rest).toList
        = "    pub ".toList ++ (property.name.toList ++ []
          ++ ':' :: (" " ++ type ++ "," ++ rest).toList) := by
      simp
    rw [declared?, htext, hafter]
    exact nameBefore?_append hcolon h.isBlank_name (by simp) _

/-! ## Objective-C -/

/-- An assignment declares its property, whatever is assigned. -/
theorem declared?_assignment (h : property.IsNamed objcSource) (value : String) :
    objcSource.declared? ("        _" ++ property.name ++ " = " ++ value) = some property.name := by
  have hmark : '=' ∉ property.name.toList ++ [' '] := by simpa using h.not_mem_name (by decide)
  have hafter : ∀ rest, Text.after? "_" (Text.trimStart ("        _".toList ++ rest)) = some rest :=
    Text.after?_trimStart_append (by decide) (by decide)
  have htext : ("        _" ++ property.name ++ " = " ++ value).toList = "        _".toList
      ++ (property.name.toList ++ [' '] ++ '=' :: (" " ++ value).toList) := by
    simp
  rw [declared?, htext, hafter]
  exact nameBefore?_append hmark h.isBlank_name (List.forall_mem_singleton.2 (by decide)) _

/-- Where no loop is needed, the assignment in Objective-C is one statement. -/
theorem objcAssignment_of_not_isLoop (h : ¬ objcSource.IsLoop property) : objcAssignment property
    = "        _" ++ property.name ++ " = " ++ (objcValue property.type property.key ++ ";") := by
  unfold objcAssignment
  dsimp only
  split
  · next model htype => exact absurd ⟨rfl, model, htype⟩ h
  · simp only [String.append_assoc]

/-- In an Objective-C implementation, the text of a property declares it on the last line. -/
theorem exists_declares_objcSource (h : property.IsNamed objcSource) :
    ∃ above line, objcSource.Declares property above line := by
  have hname := h.isPlain.name
  by_cases hloop : objcSource.IsLoop property
  · have ⟨_, model, htype⟩ := hloop
    have hmodel : '\n' ∉ model.toList := h.isPlain.type model (by rw [htype]; rfl)
    have hpayload := not_mem_objcPayload property.key
    have hquiet : ∀ lead rest : String, objcSource.IsQuiet lead →
        objcSource.declared? (lead ++ rest) = none := fun lead rest hlead =>
      declared?_eq_none hlead (by simp)
    refine ⟨["        NSMutableArray *" ++ (property.name ++ "Items = [NSMutableArray array];"),
      "        for (NSDictionary *item in " ++ (objcPayload property.key ++ ") \x7b"),
      "            [" ++ (property.name ++ "Items addObject:[[" ++ model
        ++ " alloc] initWithDictionary:item]];"), "        \x7d"],
      "        _" ++ property.name ++ " = " ++ (property.name ++ "Items;"), ?_, ?_, ?_, ?_, ?_, ?_⟩
    · show objcAssignment property = _
      rw [objcAssignment, htype]
      simp only [String.append_assoc]
      rfl
    · simp [hname, hmodel, hpayload]
    · simp only [List.forall_mem_cons]
      exact ⟨hquiet _ _ (by decide), hquiet _ _ (by decide), hquiet _ _ (by decide), by decide,
        by simp⟩
    · intro rest
      rw [String.append_assoc]
      exact declared?_assignment h _
    · exact fun hnot => absurd hloop hnot
    · exact fun _ => ⟨List.cons_ne_nil _ _, fun _ => rfl⟩
  · have htext := objcAssignment_of_not_isLoop hloop
    refine ⟨[], objcAssignment property, .of_editedText hloop (fun line => ?_) rfl (by simp) ?_ ?_⟩
    · simp [editedText, Text.unlines]
    · simp [htext, hname, not_mem_objcValue h.isPlain]
    · intro rest
      rw [htext, String.append_assoc]
      exact declared?_assignment h _

/-- What stands before the name of a declaration ends in a blank or a star, and it has no line feeds
and no semicolons. -/
theorem exists_objcDeclaration_eq (h : property.IsNamed objcHeader) :
    ∃ (front : String) (sep : Char), (sep = ' ' ∨ sep = '*') ∧
      (∀ c, c = '\n' ∨ c = ';' → c ∉ front.toList) ∧ objcDeclaration property
        = "\n" ++ ("@property (" ++ front ++ String.singleton sep ++ property.name ++ ";") := by
  have hattributes : ∀ c, c = '\n' ∨ c = ';' → c ∉ (objcAttributes property).toList := by
    unfold objcAttributes
    rintro c (rfl | rfl)
    all_goals
      split
      · decide
      · split <;> decide
  have htype : ∀ c, c = '\n' ∨ c = ';' → c ∉ (objcType property.type).toList := fun c hc =>
    not_mem_typeName hc .objcHeader (h.not_mem_model (by rcases hc with rfl | rfl <;> decide))
  have hopening : "\n@property (" = "\n" ++ "@property (" := rfl
  by_cases hlast : (objcType property.type).toList.getLast? = some '*'
  · obtain ⟨front, hfront⟩ := List.getLast?_eq_some_iff.1 hlast
    refine ⟨objcAttributes property ++ ") " ++ String.ofList front, '*', .inr rfl, ?_, ?_⟩
    · intro c hc
      have hnot := htype c hc
      have hother := hattributes c hc
      rw [hfront] at hnot
      rcases hc with rfl | rfl <;> simp_all
    · have htext : objcType property.type = String.ofList front ++ String.singleton '*' :=
        String.toList_inj.1 (by simp [hfront])
      unfold objcDeclaration
      dsimp only
      rw [if_pos hlast, hopening, htext, String.append_empty]
      simp only [String.append_assoc]
  · refine ⟨objcAttributes property ++ ") " ++ objcType property.type, ' ', .inl rfl, ?_, ?_⟩
    · intro c hc
      have hnot := htype c hc
      have hother := hattributes c hc
      rcases hc with rfl | rfl <;> simp [hnot, hother]
    · have hspace : " " = String.singleton ' ' := rfl
      unfold objcDeclaration
      dsimp only
      rw [if_neg hlast, hopening, hspace]
      simp only [String.append_assoc]

/-- A declaration is read up to its semicolon. -/
theorem objcDeclared?_append {front name : String} {sep : Char} (hsep : isBlank sep ∨ sep = '*')
    (hsemicolon : ';' ∉ (front ++ String.singleton sep ++ name).toList) (hempty : name ≠ "")
    (hname : ∀ c ∈ name.toList, isBlank c = false ∧ c ≠ '*') (rest : List Char) :
    objcDeclared? ("@property (".toList
      ++ ((front ++ String.singleton sep ++ name).toList ++ ';' :: rest)) = some name := by
  let declaration := "@property (".toList ++ (front ++ String.singleton sep ++ name).toList
  have htrim : Text.trim ("@property (".toList
      ++ ((front ++ String.singleton sep ++ name).toList ++ ';' :: rest))
      = declaration ++ ';' :: Text.trimEnd rest := by
    have hstart : Text.trimStart "@property (".toList = "@property (".toList := by decide
    rw [Text.trim, Text.trimStart_append (by decide), hstart, ← List.append_assoc,
      Text.trimEnd_append_cons (by decide)]
  have hmark : Text.startsWith "@property" (declaration ++ ';' :: Text.trimEnd rest) = true := by
    have hbegins : "@property".toList <+: "@property (".toList := by decide
    rw [Text.startsWith, List.isPrefixOf_iff_prefix, List.append_assoc]
    exact hbegins.trans (List.prefix_append _ _)
  have hcut : Text.cutAt [';'] (declaration ++ ';' :: Text.trimEnd rest)
      = some (declaration, Text.trimEnd rest) := by
    refine Text.cutAt_append ?_ [] _
    rw [List.mem_append, not_or]
    exact ⟨by decide, hsemicolon⟩
  have hlast : lastPiece declaration = name.toList := by
    have hsplit : declaration
        = "@property (".toList ++ front.toList ++ sep :: name.toList := by
      simp [declaration]
    rw [hsplit, lastPiece_append hsep _ hname]
  rw [objcDeclared?, htrim]
  simp only [hmark, if_true, hcut, Option.bind_some, hlast]
  split
  · next hnil => exact absurd (String.toList_inj.1 hnil) hempty
  · rw [String.ofList_toList]

/-- In an Objective-C header, the text of a property declares it on the last line. -/
theorem exists_declares_objcHeader (h : property.IsNamed objcHeader) :
    ∃ above line, objcHeader.Declares property above line := by
  obtain ⟨front, sep, hsep, hfront, htext⟩ := exists_objcDeclaration_eq h
  have hnot : ∀ c, c = '\n' ∨ c = ';' →
      c ∉ (front ++ String.singleton sep ++ property.name).toList := by
    intro c hc
    have hother := hfront c hc
    have hname : c ∉ property.name.toList := h.not_mem_name (by rcases hc with rfl | rfl <;> decide)
    rcases hc with rfl | rfl <;> rcases hsep with rfl | rfl <;> simp [hother, hname]
  have hedited : ∀ line, objcHeader.editedText property line = Text.unlines ([""] ++ [line]) :=
    fun line => by simp [editedText, Text.unlines]
  have hblank : isBlank sep ∨ sep = '*' := hsep.imp_left (by rintro rfl; decide)
  have hempty : property.name ≠ "" := h.name ▸ propertyName_ne_empty objcHeader property.key
  have hstar : '*' ∉ property.name.toList := h.not_mem_name (by decide)
  refine ⟨[""], "@property (" ++ (front ++ String.singleton sep ++ property.name) ++ ";",
    .of_editedText (not_isLoop (by decide)) hedited ?_ (by simp) ?_ fun rest => ?_⟩
  · show objcDeclaration property = "\n" ++ _
    rw [htext]
    simp only [String.append_assoc]
  · have hline := hnot '\n' (.inl rfl)
    generalize front ++ String.singleton sep ++ property.name = declaration at hline ⊢
    simp [hline]
  · have hchars : ("@property (" ++ (front ++ String.singleton sep ++ property.name) ++ ";"
        ++ rest).toList = "@property (".toList
          ++ ((front ++ String.singleton sep ++ property.name).toList ++ ';' :: rest.toList) := by
      simp
    rw [declared?, hchars]
    exact objcDeclared?_append hblank (hnot ';' (.inr rfl)) hempty
      (fun c hc => ⟨h.isBlank_name c hc, ne_of_mem_of_not_mem hc hstar⟩) _

/-! ## All targets -/

/-- Below other lines, the text of a property has one line that declares it. -/
theorem exists_declares (htarget : target ≠ .kotlin) (h : property.IsNamed target) :
    ∃ above line, target.Declares property above line := by
  cases target with
  | swift => exact ⟨[], _, declares_swift h⟩
  | kotlin => exact absurd rfl htarget
  | objcSource => exact exists_declares_objcSource h
  | objcHeader => exact exists_declares_objcHeader h
  | rust => exact exists_declares_rust h

/-- Properties of different names are sorted by different keys. -/
theorem name_eq_of_sortKey_eq (htarget : target ≠ .kotlin) {a b : Property} (ha : a.IsNamed target)
    (hb : b.IsNamed target) (h : target.sortKey a = target.sortKey b) : a.name = b.name := by
  have htext : target.propertyText a = target.propertyText b → a.name = b.name := by
    intro htext
    obtain ⟨_, _, ha⟩ := exists_declares htarget ha
    obtain ⟨_, _, hb⟩ := exists_declares htarget hb
    have hnames := ha.declaredNames_propertyText
    rw [htext, hb.declaredNames_propertyText] at hnames
    exact (List.singleton_inj.1 hnames).symm
  cases target with
  | swift | objcHeader => exact htext h
  | kotlin => exact absurd rfl htarget
  | objcSource => exact h
  | rust =>
    have hbare : bareName a.name = bareName b.name := h
    rw [ha.name, hb.name] at hbare ⊢
    rw [eq_bareName_rust a.key, eq_bareName_rust b.key, hbare]

end Target

end PayloadModels
