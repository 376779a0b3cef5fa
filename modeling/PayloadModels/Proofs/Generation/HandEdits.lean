import Mathlib.Data.List.Perm.Basic
import PayloadModels.Proofs.Generation.Marks

/-!
# Hand edits of a rendered file

A file that was rendered from unmarked texts and some hand edits has, as its own hand edits, just
those that it needed: one for each property that an edit declares (`ofText_fileOf_perm`). So reading
the file again finds the same edit for every property that was written, and for no other name any
edit at all (`find?_ofText_fileOf`), and rendering from these edits instead gives the same file
(`fileOf_ofText_fileOf`).
-/

namespace PayloadModels

namespace HandEdit

/-- Whether a line carries the comment that keeps it. -/
def isTagged (target : Target) (line : String) : Bool :=
  Text.contains (target.lineComment ++ " " ++ handEditMark) line.toList

/-- The hand edit that a line is, if it is tagged and declares a property. -/
def ofLine? (target : Target) (line : String) : Option HandEdit :=
  if isTagged target line then (target.declared? line).map fun name => ⟨line, name⟩ else none

/-- The hand edits of a text are those of its lines. -/
theorem ofText_eq (target : Target) (text : String) :
    ofText target text = (Text.lines text).filterMap (ofLine? target) := by
  simp only [ofText, List.filterMap_filter]
  rfl

/-- A line is a hand edit of a property when it is tagged and declares the property. -/
theorem ofLine?_eq_some {target : Target} {line : String} {edit : HandEdit} :
    ofLine? target line = some edit ↔
      isTagged target line ∧ target.declared? line = some edit.name ∧ edit.line = line := by
  obtain ⟨held, name⟩ := edit
  rw [ofLine?]
  split
  · next h =>
    rw [Option.map_eq_some_iff]
    constructor
    · rintro ⟨declared, hdeclared, heq⟩
      cases heq
      exact ⟨h, hdeclared, rfl⟩
    · rintro ⟨-, hdeclared, rfl⟩
      exact ⟨name, hdeclared, rfl⟩
  · next h => simp [h]

/-- A text without the mark is not tagged. -/
theorem isTagged_eq_false {target : Target} {text : String} (h : Unmarked text) :
    isTagged target text = false := by
  have hmark : handEditMark.toList
      <:+: (target.lineComment ++ " " ++ handEditMark).toList := by
    rw [String.toList_append]
    exact List.infix_append_right
  exact Bool.eq_false_iff.2 fun htagged => h (hmark.trans (Text.contains_iff.1 htagged))

/-- A line without the mark is no hand edit. -/
theorem ofLine?_eq_none {target : Target} {line : String} (h : Unmarked line) :
    ofLine? target line = none := by
  rw [ofLine?, isTagged_eq_false h, if_neg Bool.false_ne_true]

/-- A text without the mark has no hand edits. -/
theorem ofText_eq_nil {target : Target} {text : String} (h : Unmarked text) :
    ofText target text = [] := by
  rw [ofText_eq, List.filterMap_eq_nil_iff]
  exact fun line hline => ofLine?_eq_none (h.of_mem_lines hline)

/-- The hand edit is a line of a file of the target. -/
structure IsLine (target : Target) (edit : HandEdit) : Prop where
  ofLine?_line : ofLine? target edit.line = some edit
  lines_line : Text.lines edit.line = [edit.line]

/-- A hand edit of a file is a line that is tagged and declares its property. -/
theorem isLine_of_mem_ofText {target : Target} {text : String} {edit : HandEdit}
    (h : edit ∈ ofText target text) : edit.IsLine target := by
  rw [ofText_eq] at h
  obtain ⟨line, hline, hedit⟩ := List.mem_filterMap.1 h
  obtain ⟨-, -, rfl⟩ := ofLine?_eq_some.1 hedit
  exact ⟨hedit, Text.lines_of_mem_lines hline⟩

/-- The hand edit that is found for a name is one of them and declares the name. -/
theorem find?_eq_some {edits : List HandEdit} {name : String} {edit : HandEdit}
    (h : find? edits name = some edit) : edit ∈ edits ∧ edit.name = name := by
  have hname := List.find?_some h
  exact ⟨List.mem_of_find?_eq_some h, by simpa using hname⟩

/-- No hand edit is found for a name that none of them declares. -/
theorem find?_eq_none {edits : List HandEdit} {name : String}
    (h : ∀ edit ∈ edits, edit.name ≠ name) : find? edits name = none :=
  List.find?_eq_none.2 fun edit hedit => by simpa using h edit hedit

/-- Among edits of different names, an edit is found under its name. -/
theorem find?_eq_some_iff {edits : List HandEdit} (h : (edits.map (·.name)).Nodup) {name : String}
    {edit : HandEdit} : find? edits name = some edit ↔ edit ∈ edits ∧ edit.name = name := by
  refine ⟨find?_eq_some, ?_⟩
  rintro ⟨hmem, rfl⟩
  obtain ⟨front, back, rfl⟩ := List.append_of_mem hmem
  rw [List.map_append, List.map_cons, List.nodup_append] at h
  obtain ⟨-, -, hfront⟩ := h
  have hnone : find? front edit.name = none := find?_eq_none fun other hother =>
    hfront other.name (List.mem_map_of_mem hother) edit.name (by simp)
  rw [find?] at hnone ⊢
  rw [List.find?_append, hnone]
  simp

end HandEdit

/-! ## Properties with different names -/

/-- The properties that are written are properties of the model. -/
theorem mem_of_mem_distinctNames {properties : List Property} {property : Property}
    (h : property ∈ distinctNames properties) : property ∈ properties := by
  induction properties with
  | nil => exact h
  | cons first rest ih =>
    rcases List.mem_cons.1 h with rfl | h
    · simp
    · exact List.mem_cons_of_mem _ (ih (List.mem_of_mem_filter h))

/-- The properties that are written have different names. -/
theorem nodup_names_distinctNames (properties : List Property) :
    ((distinctNames properties).map (·.name)).Nodup := by
  induction properties with
  | nil => exact List.nodup_nil
  | cons first rest ih =>
    rw [distinctNames, List.map_cons, List.nodup_cons]
    refine ⟨fun hmem => ?_, ih.sublist (List.filter_sublist.map _)⟩
    obtain ⟨other, hother, hname⟩ := List.mem_map.1 hmem
    have hne := (List.mem_filter.1 hother).2
    simp [hname] at hne

/-- Properties of different names are all kept. -/
theorem distinctNames_eq_self {properties : List Property} (h : (properties.map (·.name)).Nodup) :
    distinctNames properties = properties := by
  induction properties with
  | nil => rfl
  | cons first rest ih =>
    rw [List.map_cons, List.nodup_cons] at h
    rw [distinctNames, ih h.2, List.filter_eq_self.2]
    intro other hother
    have hne : other.name ≠ first.name := fun hname => h.1 (hname ▸ List.mem_map_of_mem hother)
    simpa using hne

/-- A name that some property has is kept. -/
theorem exists_mem_distinctNames {properties : List Property} {property : Property}
    (h : property ∈ properties) : ∃ kept ∈ distinctNames properties, kept.name = property.name := by
  induction properties with
  | nil => cases h
  | cons first rest ih =>
    by_cases hname : property.name = first.name
    · exact ⟨first, by simp [distinctNames], hname.symm⟩
    · rcases List.mem_cons.1 h with rfl | h
      · exact absurd rfl hname
      · obtain ⟨kept, hkept, heq⟩ := ih h
        refine ⟨kept, List.mem_cons_of_mem _ (List.mem_filter.2 ⟨hkept, ?_⟩), heq⟩
        simpa [heq] using hname

/-- The properties of an unmarked edition that are written are unmarked. -/
theorem Edition.IsUnmarked.distinctNames {edition : Edition} (h : edition.IsUnmarked) :
    ∀ property ∈ PayloadModels.distinctNames edition.properties, property.IsUnmarked :=
  fun property hproperty => h.properties property (mem_of_mem_distinctNames hproperty)

/-- The types of an unmarked edition's properties are unmarked. -/
theorem Edition.IsUnmarked.types {edition : Edition} (h : edition.IsUnmarked) :
    ∀ property ∈ edition.properties, property.type.IsUnmarked :=
  fun property hproperty => (h.properties property hproperty).type

/-! ## The parts of a file -/

namespace Target

/-- What stands above the properties of an edition. -/
def above (target : Target) (edition : Edition) : List String :=
  [edition.imprint.header (target.fileName edition.model) target.lineComment]
    ++ (target.imports edition.model (distinctNames edition.properties) edition.imprint).toList
    ++ [target.opening edition.model]

/-- What stands below the properties of an edition. -/
def below (target : Target) (edition : Edition) : List String :=
  (target.keyMapping (distinctNames edition.properties)).toList ++ [target.closing]

/-- The file of an edition, with some hand edits. -/
def fileOf (target : Target) (edition : Edition) (edits : List HandEdit) : String :=
  target.render edition.model edition.properties edits edition.imprint

variable {target : Target} {edition : Edition} {edits : List HandEdit}

/-- A file is what is above its properties, their texts, and what is below, line by line. -/
theorem fileOf_eq (target : Target) (edition : Edition) (edits : List HandEdit) :
    target.fileOf edition edits = Text.unlines (target.above edition
      ++ target.body (distinctNames edition.properties) edits ++ target.below edition) := by
  simp only [fileOf, render, above, below, List.append_assoc]

/-- Nothing above the properties of an edition holds the mark, unless the name of a model or a text
for the header does. -/
theorem unmarked_of_mem_above (hmodel : Unmarked edition.model)
    (htypes : ∀ property ∈ edition.properties, property.type.IsUnmarked)
    (himprint : edition.imprint.IsUnmarked) {text : String} (htext : text ∈ target.above edition) :
    Unmarked text := by
  rw [above, List.mem_append, List.mem_append, List.mem_singleton, List.mem_singleton,
    Option.mem_toList] at htext
  rcases htext with (rfl | htext) | rfl
  · exact unmarked_header himprint (unmarked_fileName target hmodel) target
  · refine unmarked_imports hmodel (fun property hproperty => ?_) himprint htext
    exact htypes property (mem_of_mem_distinctNames hproperty)
  · exact unmarked_opening target hmodel

/-- Nothing below the properties of an unmarked edition holds the mark. -/
theorem unmarked_of_mem_below (h : edition.IsUnmarked) {text : String}
    (htext : text ∈ target.below edition) : Unmarked text := by
  rw [below, List.mem_append, List.mem_singleton, Option.mem_toList] at htext
  rcases htext with htext | rfl
  · exact unmarked_keyMapping h.distinctNames htext
  · exact unmarked_closing target

/-- The properties of a file are the kept texts, in some order. -/
theorem body_perm (target : Target) (properties : List Property) (edits : List HandEdit) :
    (target.body properties edits).Perm (properties.map (target.keptText edits)) := by
  have hsorted := (List.mergeSort_perm
    (properties.map fun p => (target.sortKey p, target.keptText edits p)) textOrder).map (·.2)
  rwa [List.map_map] at hsorted

/-- When nothing is read off the texts around the properties of a file, what is read off all of its
texts is what is read off the properties, in some order. -/
theorem flatMap_texts_perm {α : Type} {read : String → List α} {shown : Property → List α}
    (habove : ∀ text ∈ target.above edition, read text = [])
    (hbelow : ∀ text ∈ target.below edition, read text = [])
    (hbody : ∀ property ∈ distinctNames edition.properties,
      read (target.keptText edits property) = shown property) :
    ((target.above edition ++ target.body (distinctNames edition.properties) edits
      ++ target.below edition).flatMap read).Perm
        ((distinctNames edition.properties).flatMap shown) := by
  have hshown : ((distinctNames edition.properties).map (target.keptText edits)).flatMap read
      = (distinctNames edition.properties).flatMap shown := by
    rw [List.flatMap_map, List.flatMap_congr hbody]
  rw [List.flatMap_append, List.flatMap_append, List.flatMap_eq_nil_iff.2 habove,
    List.flatMap_eq_nil_iff.2 hbelow, List.nil_append, List.append_nil, ← hshown]
  exact (body_perm target _ edits).flatMap_right read

/-- A file without hand edits does not hold the mark. -/
theorem unmarked_fileOf (h : edition.IsUnmarked) : Unmarked (target.fileOf edition []) := by
  rw [fileOf_eq, unmarked_unlines, List.forall_mem_append, List.forall_mem_append]
  refine ⟨⟨fun _ => unmarked_of_mem_above h.model h.types h.imprint, fun text htext => ?_⟩,
    fun _ => unmarked_of_mem_below h⟩
  obtain ⟨property, hproperty, rfl⟩ := List.mem_map.1 ((body_perm target _ []).mem_iff.1 htext)
  exact unmarked_propertyText target (h.distinctNames property hproperty)

/-! ## Reading a file again -/

/-- The hand edits of joined texts are those of each of them. -/
theorem ofText_unlines {texts : List String} (h : texts ≠ []) :
    HandEdit.ofText target (Text.unlines texts) = texts.flatMap (HandEdit.ofText target) := by
  rw [HandEdit.ofText_eq, Text.lines_unlines h, List.filterMap_flatMap]
  exact List.flatMap_congr fun text _ => (HandEdit.ofText_eq target text).symm

/-- A line that is a hand edit is the only one of itself. -/
theorem ofText_eq_singleton {edit : HandEdit} (h : edit.IsLine target) :
    HandEdit.ofText target edit.line = [edit] := by
  rw [HandEdit.ofText_eq, h.lines_line]
  simp [h.ofLine?_line]

/-- A text above an edited line that holds no mark does not count. -/
theorem ofText_append_line {edit : HandEdit} (h : edit.IsLine target) {text : String}
    (htext : Unmarked text) : HandEdit.ofText target (text ++ "\n" ++ edit.line) = [edit] := by
  have hjoin : text ++ "\n" ++ edit.line = Text.unlines [text, edit.line] := by
    simp [Text.unlines]
  rw [hjoin, ofText_unlines (by simp), List.flatMap_cons, HandEdit.ofText_eq_nil htext,
    List.flatMap_singleton, ofText_eq_singleton h]
  rfl

/-- Of what stands for an edited property, exactly the edited line is read as an edit. -/
theorem ofText_editedText {property : Property} (hproperty : property.IsUnmarked) {edit : HandEdit}
    (h : edit.IsLine target) :
    HandEdit.ofText target (target.editedText property edit.line) = [edit] := by
  cases target with
  | swift | kotlin | objcSource =>
    rw [editedText]
    exact ofText_eq_singleton h
  | objcHeader =>
    rw [editedText, ← String.empty_append (s := "\n")]
    exact ofText_append_line h unmarked_empty
  | rust =>
    obtain hline | ⟨attributes, hall, hline⟩ := withDecodingAttribute_eq property edit.line
    · rw [editedText, hline]
      exact ofText_eq_singleton h
    · rw [editedText, hline]
      exact ofText_append_line h (unmarked_attributes hproperty hall)

/-- A property that no edit declares is written as it is generated. -/
theorem keptText_eq_propertyText {property : Property}
    (h : ∀ edit ∈ edits, edit.name ≠ property.name) :
    target.keptText edits property = target.propertyText property := by
  rw [keptText, HandEdit.find?_eq_none h]

/-- What is written for a property has the hand edit of the property, if there is one. -/
theorem ofText_keptText (hedits : ∀ edit ∈ edits, edit.IsLine target) {property : Property}
    (h : property.IsUnmarked) : HandEdit.ofText target (target.keptText edits property)
      = (HandEdit.find? edits property.name).toList := by
  rw [keptText]
  split
  · next edit hfind =>
    rw [hfind]
    exact ofText_editedText h (hedits edit (HandEdit.find?_eq_some hfind).1)
  · next hfind =>
    rw [hfind]
    exact HandEdit.ofText_eq_nil (unmarked_propertyText target h)

/-- A rendered file has one hand edit for each of its properties that an edit declares. -/
theorem ofText_fileOf_perm (h : edition.IsUnmarked) (hedits : ∀ edit ∈ edits, edit.IsLine target) :
    (HandEdit.ofText target (target.fileOf edition edits)).Perm
      ((distinctNames edition.properties).filterMap fun p => HandEdit.find? edits p.name) := by
  rw [fileOf_eq, ofText_unlines (by simp [above]), List.filterMap_eq_flatMap_toList]
  refine flatMap_texts_perm (fun text htext => ?_) (fun text htext => ?_)
    fun property hproperty => ?_
  · exact HandEdit.ofText_eq_nil (unmarked_of_mem_above h.model h.types h.imprint htext)
  · exact HandEdit.ofText_eq_nil (unmarked_of_mem_below h htext)
  · exact ofText_keptText hedits (h.distinctNames property hproperty)

/-- A rendered file has no two hand edits of one property. -/
theorem nodup_names_ofText_fileOf (h : edition.IsUnmarked)
    (hedits : ∀ edit ∈ edits, edit.IsLine target) :
    ((HandEdit.ofText target (target.fileOf edition edits)).map (·.name)).Nodup := by
  rw [((ofText_fileOf_perm h hedits).map _).nodup_iff, List.Nodup, List.pairwise_map]
  have hnames := nodup_names_distinctNames edition.properties
  rw [List.Nodup, List.pairwise_map] at hnames
  refine hnames.filterMap _ fun p q hne e he d hd => ?_
  rw [(HandEdit.find?_eq_some he).2, (HandEdit.find?_eq_some hd).2]
  exact hne

/-- A rendered file is read back: it has the hand edits of the properties that were written, and
no others. -/
theorem find?_ofText_fileOf (h : edition.IsUnmarked) (hedits : ∀ edit ∈ edits, edit.IsLine target)
    (name : String) : HandEdit.find? (HandEdit.ofText target (target.fileOf edition edits)) name
      = if ∃ property ∈ edition.properties, property.name = name then HandEdit.find? edits name
        else none := by
  have hperm := ofText_fileOf_perm h hedits
  have hnodup := nodup_names_ofText_fileOf h hedits
  have hfound : ∀ edit, HandEdit.find? (HandEdit.ofText target (target.fileOf edition edits)) name
      = some edit ↔ (∃ property ∈ edition.properties, property.name = name) ∧
        HandEdit.find? edits name = some edit := by
    intro edit
    rw [HandEdit.find?_eq_some_iff hnodup, hperm.mem_iff, List.mem_filterMap]
    constructor
    · rintro ⟨⟨property, hproperty, hfind⟩, rfl⟩
      have hname := (HandEdit.find?_eq_some hfind).2
      exact ⟨⟨property, mem_of_mem_distinctNames hproperty, hname.symm⟩, hname ▸ hfind⟩
    · rintro ⟨⟨property, hproperty, rfl⟩, hfind⟩
      obtain ⟨kept, hkept, hname⟩ := exists_mem_distinctNames hproperty
      exact ⟨⟨kept, hkept, hname ▸ hfind⟩, (HandEdit.find?_eq_some hfind).2⟩
  ext edit
  rw [hfound]
  split
  · next hproperty => rw [and_iff_right hproperty]
  · next hproperty => simp [hproperty]

/-- Only the edits that are found for the properties of an edition matter for its file. -/
theorem fileOf_congr {others : List HandEdit} (h : ∀ property ∈ edition.properties,
    HandEdit.find? edits property.name = HandEdit.find? others property.name) :
    target.fileOf edition edits = target.fileOf edition others := by
  have hbody : target.body (distinctNames edition.properties) edits
      = target.body (distinctNames edition.properties) others := by
    simp only [body]
    congr 2
    refine List.map_congr_left fun property hproperty => ?_
    rw [keptText, keptText, h property (mem_of_mem_distinctNames hproperty)]
  rw [fileOf_eq, fileOf_eq, hbody]

/-- A file's own hand edits give the file of its properties that the hand edits it was rendered with
give, also under another header. -/
theorem fileOf_ofText_fileOf {other : Edition} (h : edition.IsUnmarked)
    (hedits : ∀ edit ∈ edits, edit.IsLine target)
    (hproperties : other.properties = edition.properties) :
    target.fileOf other (HandEdit.ofText target (target.fileOf edition edits))
      = target.fileOf other edits := by
  refine fileOf_congr fun property hproperty => ?_
  rw [hproperties] at hproperty
  rw [find?_ofText_fileOf h hedits, if_pos ⟨property, hproperty, rfl⟩]

end Target

end PayloadModels
