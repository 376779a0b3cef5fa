import Mathlib.Data.List.Nodup
import Mathlib.Data.String.Basic
import PayloadModels.Proofs.Generation.Convergence
import PayloadModels.Proofs.Generation.Updates
import PayloadModels.Proofs.Target.Declarations

/-!
# Tagging a generated line

Around its properties, no line of a file declares one (`Target.declaredNames_above`,
`Target.declaredNames_below`), so that one line declares each property. Someone who tags that line,
and changes nothing else, has a file that is rendered again as it stands, since the properties keep
their order (`Target.exists_perm_body_eq`) and the lines around the tagged one are written again;
but of a loop over a list of models, only the tagged line is left (`Target.revise_tagged`).
-/

namespace PayloadModels

open Naming

/-- An edition of a model as models have them: its properties are named by their keys, and all names
are different. -/
structure Edition.IsNamed (target : Target) (edition : Edition) : Prop where
  model : IsNameText edition.model
  properties : ∀ property ∈ edition.properties, property.IsNamed target
  nodup : (edition.properties.map (·.name)).Nodup

namespace Edition.IsNamed

variable {target : Target} {edition : Edition}

/-- An edition with names from words is plain when its imprint is. -/
theorem isPlain (h : edition.IsNamed target) (himprint : edition.imprint.IsPlain) :
    edition.IsPlain :=
  ⟨h.model.not_mem_newline, fun property hproperty => (h.properties property hproperty).isPlain,
    himprint⟩

/-- An edition with names from words is unmarked when its imprint and its keys are. -/
theorem isUnmarked (h : edition.IsNamed target) (himprint : edition.imprint.IsUnmarked)
    (hkeys : ∀ property ∈ edition.properties, Unmarked property.key) : edition.IsUnmarked := by
  refine ⟨unmarked_of_not_mem fun hmem => not_isNameChar_colon (h.model _ hmem), ?_, himprint⟩
  exact fun property hproperty => (h.properties property hproperty).isUnmarked (hkeys _ hproperty)

end Edition.IsNamed

/-- A revision is its status and its contents. -/
theorem Revision.eq_mk {revision : Revision} {status : FileStatus} {contents : String}
    (hstatus : revision.status = status) (hcontents : revision.contents = contents) :
    revision = ⟨status, contents⟩ := by
  rw [← hstatus, ← hcontents]

namespace Target

variable {target : Target} {edition : Edition} {model : String} {properties : List Property}

/-! ## What stands around the properties declares nothing -/

/-- What declares a Rust field has a colon. -/
theorem declared?_rust_eq_none {line : String} (h : ':' ∉ line.toList) :
    rust.declared? line = none := by
  refine Option.eq_none_iff_forall_ne_some.2 fun name hname => ?_
  obtain ⟨rest, hrest, hbefore⟩ := Option.bind_eq_some_iff.1 hname
  have hmem : ∀ c ∈ rest, c ∈ line.toList := by
    intro c hc
    rw [Text.after?, List.isPrefixOf?_eq_some_iff_append_eq] at hrest
    have hsuffix : Text.trimStart line.toList <:+ line.toList := List.dropWhile_suffix _
    exact hsuffix.subset (hrest ▸ List.mem_append_right _ hc)
  rw [nameBefore?, Text.cutAt_eq_none (List.mem_singleton_self ':') (mt (hmem ':') h)] at hbefore
  cases hbefore

/-- What stands around the properties begins no line that declares one. -/
theorem isQuiet_of_mem_frameLeads (htarget : target ≠ .kotlin ∧ target ≠ .rust) :
    ∀ lead ∈ target.frameLeads, target.IsQuiet lead := by
  revert htarget
  cases target <;> decide

/-- The opening of a declaration declares no property. -/
theorem declaredNames_opening (htarget : target ≠ .kotlin) (h : IsNameText model) :
    target.declaredNames (target.opening model) = [] := by
  by_cases hrust : target = .rust
  · subst hrust
    have hcolon : ':' ∉ model.toList := fun hmem => not_isNameChar_colon (h _ hmem)
    have hderive : rust.declaredNames
        "#[derive(Debug, Clone, PartialEq, Serialize, Deserialize)]" = [] := by decide
    have hstruct : rust.declaredNames ("pub struct " ++ model ++ " \x7b") = [] := by
      have hnone : rust.declared? ("pub struct " ++ model ++ " \x7b") = none :=
        declared?_rust_eq_none (by simp [hcolon])
      rw [declaredNames, Text.lines_eq_singleton (by simp [h.not_mem_newline]),
        List.filterMap_cons_none hnone]
      rfl
    rw [opening, declaredNames_unlines, List.flatMap_cons, hderive, List.flatMap_singleton, hstruct]
    rfl
  · exact declaredNames_eq_nil (ledBy_opening target h.not_mem_newline)
      (isQuiet_of_mem_frameLeads ⟨htarget, hrust⟩)

/-- The closing of a declaration declares no property. -/
theorem declaredNames_closing (target : Target) : target.declaredNames target.closing = [] := by
  cases target <;> decide

/-- The mapping of keys declares no property. -/
theorem declaredNames_keyMapping (h : ∀ property ∈ properties, property.IsPlain) {text : String}
    (htext : target.keyMapping properties = some text) : target.declaredNames text = [] := by
  cases target with
  | swift =>
    exact declaredNames_eq_nil (ledBy_keyMapping h htext) (isQuiet_of_mem_frameLeads (by decide))
  | _ => cases htext

/-- A header declares no property. -/
theorem declaredNames_header (htarget : target ≠ .kotlin) {imprint : Imprint}
    (h : imprint.IsPlain) {fileName : String} (hfile : '\n' ∉ fileName.toList) :
    target.declaredNames (imprint.header fileName target.lineComment) = [] := by
  refine declaredNames_eq_nil (Imprint.ledBy_header h hfile target) ?_
  revert htarget
  cases target <;> decide

/-- Imports declare no property. -/
theorem declaredNames_imports (htarget : target ≠ .kotlin) (h : edition.IsPlain) {text : String}
    (htext : target.imports edition.model (distinctNames edition.properties) edition.imprint
      = some text) : target.declaredNames text = [] := by
  refine declaredNames_eq_nil
    (ledBy_imports h.model h.of_mem_distinctNames h.imprint.package htext) ?_
  revert htarget
  cases target <;> decide

/-- Nothing above the properties of a file declares one. -/
theorem declaredNames_above (htarget : target ≠ .kotlin) (hmodel : IsNameText edition.model)
    (h : edition.IsPlain) : ∀ text ∈ target.above edition, target.declaredNames text = [] := by
  intro text htext
  simp only [above, List.mem_append, List.mem_singleton, Option.mem_toList] at htext
  rcases htext with (rfl | htext) | rfl
  · exact declaredNames_header htarget h.imprint (target.not_mem_fileName h.model)
  · exact declaredNames_imports htarget h htext
  · exact declaredNames_opening htarget hmodel

/-- Nothing below the properties of a file declares one. -/
theorem declaredNames_below (h : edition.IsPlain) :
    ∀ text ∈ target.below edition, target.declaredNames text = [] := by
  intro text htext
  simp only [below, List.mem_append, List.mem_singleton, Option.mem_toList] at htext
  rcases htext with htext | rfl
  · exact declaredNames_keyMapping h.of_mem_distinctNames htext
  · exact target.declaredNames_closing

/-- What no text declares, no line of them declares. -/
theorem declared?_ne_of_mem_flatMap_lines {texts : List String} {name : String}
    (h : ∀ text ∈ texts, name ∉ target.declaredNames text) :
    ∀ line ∈ texts.flatMap Text.lines, target.declared? line ≠ some name := by
  intro line hline hname
  obtain ⟨text, htext, hline⟩ := List.mem_flatMap.1 hline
  exact h text htext (List.mem_filterMap.2 ⟨line, hline, hname⟩)

/-! ## The order of properties -/

/-- The properties of a file have one order, whichever of their lines were edited. -/
theorem exists_perm_body_eq (htarget : target ≠ .kotlin)
    (h : ∀ property ∈ properties, property.IsNamed target)
    (hnames : (properties.map (·.name)).Nodup) : ∃ sorted : List Property,
      sorted.Perm properties ∧
        ∀ edits, target.body properties edits = sorted.map (target.keptText edits) := by
  let before (a b : Property) : Bool := decide (target.sortKey a ≤ target.sortKey b)
  refine ⟨properties.mergeSort before, List.mergeSort_perm _ _, fun edits => ?_⟩
  have horder : ∀ a ∈ properties, ∀ b ∈ properties, before a b
      = textOrder (target.sortKey a, target.keptText edits a)
        (target.sortKey b, target.keptText edits b) := by
    intro a ha b hb
    by_cases hkey : target.sortKey a = target.sortKey b
    · have hname := name_eq_of_sortKey_eq htarget (h a ha) (h b hb) hkey
      rw [List.inj_on_of_nodup_map hnames ha hb hname]
      simp [before, textOrder]
    · simp [before, textOrder, hkey, le_iff_lt_or_eq]
  rw [body, ← List.map_mergeSort horder, List.map_map]
  rfl

/-- The generated texts of other properties do not declare a property. -/
theorem not_mem_declaredNames_of_ne (htarget : target ≠ .kotlin) {others : List Property}
    {name : String} (h : ∀ other ∈ others, other.IsNamed target ∧ other.name ≠ name) :
    ∀ text ∈ others.map target.propertyText, name ∉ target.declaredNames text := by
  rw [List.forall_mem_map]
  intro other hother
  obtain ⟨hnamed, hname⟩ := h other hother
  obtain ⟨_, _, hdeclares⟩ := exists_declares htarget hnamed
  rw [hdeclares.declaredNames_propertyText, List.mem_singleton]
  exact hname.symm

/-- A file in which only one property is edited has the same lines around the text of the property,
edited or not, and none of these lines declares it. -/
theorem exists_lines_fileOf_eq (htarget : target ≠ .kotlin) (h : edition.IsNamed target)
    (himprint : edition.imprint.IsPlain) {property : Property}
    (hproperty : property ∈ edition.properties) : ∃ front back : List String,
      (∀ line ∈ front ++ back, target.declared? line ≠ some property.name) ∧
      ∀ edits : List HandEdit, (∀ edit ∈ edits, edit.name = property.name) →
        Text.lines (target.fileOf edition edits)
          = front ++ Text.lines (target.keptText edits property) ++ back := by
  obtain ⟨sorted, hperm, hbody⟩ := exists_perm_body_eq htarget h.properties h.nodup
  obtain ⟨before, behind, rfl⟩ := List.append_of_mem (hperm.mem_iff.2 hproperty)
  have hothers : ∀ other ∈ before ++ behind, other.IsNamed target ∧ other.name ≠ property.name := by
    have hnames := (hperm.map Property.name).nodup_iff.2 h.nodup
    rw [(List.perm_middle.map _).nodup_iff, List.map_cons, List.nodup_cons] at hnames
    intro other hother
    have hmem := hperm.mem_iff.1 (List.perm_middle.mem_iff.2 (List.mem_cons_of_mem _ hother))
    exact ⟨h.properties other hmem, fun hname => hnames.1 (hname ▸ List.mem_map_of_mem hother)⟩
  obtain ⟨hbefore, hbehind⟩ := List.forall_mem_append.1 hothers
  refine ⟨(target.above edition ++ before.map target.propertyText).flatMap Text.lines,
    (behind.map target.propertyText ++ target.below edition).flatMap Text.lines, ?_, ?_⟩
  · rw [← List.flatMap_append]
    refine declared?_ne_of_mem_flatMap_lines fun text htext => ?_
    have hplain := h.isPlain himprint
    rw [List.mem_append, List.mem_append, List.mem_append] at htext
    rcases htext with (htext | htext) | htext | htext
    · rw [declaredNames_above htarget h.model hplain text htext]
      exact List.not_mem_nil
    · exact not_mem_declaredNames_of_ne htarget hbefore text htext
    · exact not_mem_declaredNames_of_ne htarget hbehind text htext
    · rw [declaredNames_below hplain text htext]
      exact List.not_mem_nil
  · intro edits hedits
    have hkept : ∀ others : List Property,
        (∀ other ∈ others, other.IsNamed target ∧ other.name ≠ property.name) →
          others.map (target.keptText edits) = others.map target.propertyText :=
      fun others hothers => List.map_congr_left fun other hother =>
        keptText_eq_propertyText fun edit hedit =>
          hedits edit hedit ▸ (hothers other hother).2.symm
    rw [fileOf_eq, distinctNames_eq_self h.nodup, hbody, List.map_append, List.map_cons,
      hkept before hbefore, hkept behind hbehind, Text.lines_unlines (by simp [above])]
    simp only [List.flatMap_append, List.flatMap_cons, List.append_assoc]

/-! ## The tag -/

/-- What is appended to a line to keep it. -/
def tag (target : Target) : String := " " ++ (target.lineComment ++ " " ++ handEditMark)

/-- The tag stands on one line. -/
theorem not_mem_tag (target : Target) : '\n' ∉ target.tag.toList := by cases target <;> decide

/-- A line with the tag behind it is tagged. -/
theorem isTagged_append_tag (target : Target) (line : String) :
    HandEdit.isTagged target (line ++ target.tag) := by
  refine Text.contains_iff.2 ⟨(line ++ " ").toList, [], ?_⟩
  simp [tag]

/-- Tagging one of several lines changes that line only. -/
theorem lines_unlines_append_tag {front back : List String} {line : String}
    (h : ∀ text ∈ front ++ line :: back, '\n' ∉ text.toList) :
    Text.lines (Text.unlines (front ++ (line ++ target.tag) :: back))
      = front ++ (line ++ target.tag) :: back := by
  simp only [List.forall_mem_append, List.forall_mem_cons] at h
  refine Text.lines_unlines_of_not_mem (by simp) ?_
  simp only [List.forall_mem_append, List.forall_mem_cons]
  exact ⟨h.1, by simp [h.2.1, target.not_mem_tag], h.2.2⟩

/-- Of lines without the mark and a tagged line that declares a property, the tagged one is the hand
edit. -/
theorem ofText_append_tag {front back : List String} {line name : String}
    (hnewline : ∀ text ∈ front ++ line :: back, '\n' ∉ text.toList)
    (hunmarked : ∀ text ∈ front ++ line :: back, Unmarked text)
    (hdeclared : target.declared? (line ++ target.tag) = some name) :
    HandEdit.ofText target (Text.unlines (front ++ (line ++ target.tag) :: back))
      = [⟨line ++ target.tag, name⟩] := by
  obtain ⟨hfront, hback⟩ := List.forall_mem_append.1 hunmarked
  have hedit : HandEdit.ofLine? target (line ++ target.tag) = some ⟨line ++ target.tag, name⟩ :=
    HandEdit.ofLine?_eq_some.2 ⟨target.isTagged_append_tag line, hdeclared, rfl⟩
  have hnone : front.filterMap (HandEdit.ofLine? target) = [] ∧
      back.filterMap (HandEdit.ofLine? target) = [] := by
    rw [List.filterMap_eq_nil_iff, List.filterMap_eq_nil_iff]
    exact ⟨fun text htext => HandEdit.ofLine?_eq_none (hfront text htext),
      fun text htext => HandEdit.ofLine?_eq_none (hback text (List.mem_cons_of_mem _ htext))⟩
  rw [HandEdit.ofText_eq, lines_unlines_append_tag hnewline, List.filterMap_append,
    List.filterMap_cons_some hedit, hnone.1, hnone.2]
  rfl

/-- A file that is rendered again as it stands is left alone. -/
theorem revise_eq_self {text : String}
    (h : Text.lines (target.revise (some text) edition).contents = Text.lines text) :
    target.revise (some text) edition = ⟨.unchanged, text⟩ := by
  have hcontents : (target.revise (some text) edition).contents = text := by
    rw [← Text.unlines_lines (target.revise (some text) edition).contents, h, Text.unlines_lines]
  have halike : Alike text (target.revise (some text) edition).contents := by
    rw [hcontents]
    exact .refl text
  exact Revision.eq_mk (revise_of_alike halike).1 hcontents

/-- A file that is rendered again with fewer lines is updated. -/
theorem revise_of_length_lt {text : String} {lines : List String}
    (h : Text.lines (target.revise (some text) edition).contents = lines)
    (hlength : lines.length < (Text.lines text).length) :
    target.revise (some text) edition = ⟨.updated, Text.unlines lines⟩ := by
  have hcontents : (target.revise (some text) edition).contents = Text.unlines lines := by
    rw [← h, Text.unlines_lines]
  have hupdates : hasUpdates text (target.revise (some text) edition).contents = true := by
    simp [hasUpdates, h, hlength.ne']
  have hstatus : (target.revise (some text) edition).status = .updated := by
    rw [status_revise_some, if_pos hupdates]
  exact Revision.eq_mk hstatus hcontents

/-- When the line is tagged that declares a property, the lines around the text of the property are
rendered again, and between them what stands for the edited property. -/
theorem exists_lines_contents_revise (htarget : target ≠ .kotlin) (h : edition.IsNamed target)
    (hkeys : ∀ property ∈ edition.properties, Unmarked property.key)
    (hplain : edition.imprint.IsPlain) (hunmarked : edition.imprint.IsUnmarked)
    {property : Property} (hproperty : property ∈ edition.properties) {above : List String}
    {line : String} (hdeclares : target.Declares property above line) :
    ∃ front back : List String,
      Text.lines (target.fileOf edition []) = front ++ above ++ line :: back ∧
      (∀ other ∈ front ++ back, target.declared? other ≠ some property.name) ∧
      let text := Text.unlines (front ++ above ++ (line ++ target.tag) :: back)
      Text.lines text = front ++ above ++ (line ++ target.tag) :: back ∧
      Text.lines (target.revise (some text) edition).contents
        = front ++ Text.lines (target.editedText property (line ++ target.tag)) ++ back := by
  obtain ⟨front, back, hsilent, hfile⟩ := exists_lines_fileOf_eq htarget h hplain hproperty
  have hlines : Text.lines (target.fileOf edition []) = front ++ above ++ line :: back := by
    rw [hfile [] (by simp)]
    show front ++ Text.lines (target.propertyText property) ++ back = _
    rw [hdeclares.lines_propertyText]
    simp
  have hmarks : ∀ text ∈ front ++ above ++ line :: back, Unmarked text := fun text htext =>
    (unmarked_fileOf (h.isUnmarked hunmarked hkeys)).of_mem_lines (hlines ▸ htext)
  have hnewline : ∀ text ∈ front ++ above ++ line :: back, '\n' ∉ text.toList := fun text htext =>
    Text.not_mem_of_mem_lines (hlines ▸ htext)
  refine ⟨front, back, hlines, hsilent, lines_unlines_append_tag hnewline, ?_⟩
  let edit : HandEdit := ⟨line ++ target.tag, property.name⟩
  have hkept : target.keptText [edit] property = target.editedText property edit.line := by
    simp [keptText, HandEdit.find?, edit]
  rw [contents_revise, Option.elim_some,
    ofText_append_tag hnewline hmarks (hdeclares.declared?_line _), hfile [edit] (by simp [edit]),
    hkept]

/-- One line of a file declares a property. When that line is tagged, the file is rendered again as
it stands; but of a loop over a list of models, the lines above the tagged one are lost. -/
theorem revise_tagged (htarget : target ≠ .kotlin) (h : edition.IsNamed target)
    (hkeys : ∀ property ∈ edition.properties, Unmarked property.key)
    (hplain : edition.imprint.IsPlain) (hunmarked : edition.imprint.IsUnmarked)
    {property : Property} (hproperty : property ∈ edition.properties) :
    ∃ (front above : List String) (line : String) (back : List String),
      Text.lines (target.fileOf edition []) = front ++ above ++ line :: back ∧
      target.propertyText property = Text.unlines (above ++ [line]) ∧
      target.declared? line = some property.name ∧
      (∀ other ∈ front ++ above ++ back, target.declared? other ≠ some property.name) ∧
      let text := Text.unlines (front ++ above ++ (line ++ target.tag) :: back)
      (¬ target.IsLoop property → target.revise (some text) edition = ⟨.unchanged, text⟩) ∧
      (target.IsLoop property → above ≠ [] ∧ target.revise (some text) edition
        = ⟨.updated, Text.unlines (front ++ (line ++ target.tag) :: back)⟩) := by
  obtain ⟨above, line, hdeclares⟩ := exists_declares htarget (h.properties property hproperty)
  obtain ⟨front, back, hlines, hsilent, htext, hagain⟩ :=
    exists_lines_contents_revise htarget h hkeys hplain hunmarked hproperty hdeclares
  refine ⟨front, above, line, back, hlines, hdeclares.propertyText_eq, hdeclares.declared?_eq, ?_,
    fun hloop => ?_, fun hloop => ?_⟩
  · intro other hother
    rw [List.mem_append, List.mem_append] at hother
    rcases hother with (hother | hother) | hother
    · exact hsilent other (List.mem_append_left _ hother)
    · rw [hdeclares.declared?_above other hother]
      exact (Option.some_ne_none _).symm
    · exact hsilent other (List.mem_append_right _ hother)
  · rw [hdeclares.lines_editedText hloop target.not_mem_tag] at hagain
    refine revise_eq_self ?_
    rw [hagain, htext]
    simp
  · have habove := (hdeclares.editedText_loop hloop).1
    rw [hdeclares.lines_editedText_loop hloop target.not_mem_tag] at hagain
    refine ⟨habove, revise_of_length_lt (by simpa using hagain) ?_⟩
    have hlength := List.length_pos_iff.2 habove
    rw [htext]
    simp only [List.length_append, List.length_cons]
    omega

/-- The line of a field with an attribute above it, which is written again above the tagged line. -/
theorem revise_tagged_product :
    let property : Property := ⟨"productId", "product_id", .array .int, true⟩
    let other : Property := ⟨"type", "r#type", .object "Kind", false⟩
    let edition : Edition :=
      ⟨"Product", [other, property], ⟨"Shop", some "Ada", none, none, ⟨2018, 1, 4⟩⟩⟩
    edition.IsNamed rust ∧ (∀ property ∈ edition.properties, Unmarked property.key) ∧
      edition.imprint.IsPlain ∧ edition.imprint.IsUnmarked ∧ property ∈ edition.properties ∧
      ∃ (front above : List String) (line : String) (back : List String),
        Text.lines (rust.fileOf edition []) = front ++ above ++ line :: back ∧
        rust.declared? line = some "product_id" ∧
        rust.revise (some (Text.unlines (front ++ above ++ (line ++ rust.tag) :: back))) edition
          = ⟨.unchanged, Text.unlines (front ++ above ++ (line ++ rust.tag) :: back)⟩ := by
  intro property other edition
  have hnamed : edition.IsNamed rust := by
    refine ⟨by decide, ?_, by decide⟩
    simp only [edition, List.forall_mem_cons]
    exact ⟨⟨by decide, by decide⟩, ⟨by decide, by decide⟩, by simp⟩
  have hkeys : ∀ property ∈ edition.properties, Unmarked property.key := by decide
  have hplain : edition.imprint.IsPlain := by decide
  have hunmarked : edition.imprint.IsUnmarked := by decide
  have hproperty : property ∈ edition.properties := by decide
  obtain ⟨front, above, line, back, hlines, -, hdeclared, -, hrevise, -⟩ :=
    revise_tagged (by decide) hnamed hkeys hplain hunmarked hproperty
  exact ⟨hnamed, hkeys, hplain, hunmarked, hproperty, front, above, line, back, hlines, hdeclared,
    hrevise (not_isLoop (by decide))⟩

/-- The loop that fills a list of images is gone when its last line is tagged. -/
theorem not_revise_tagged_unchanged :
    ¬ ∀ (target : Target) (edition : Edition), target ≠ .kotlin → edition.IsNamed target →
      (∀ property ∈ edition.properties, Unmarked property.key) → edition.imprint.IsPlain →
      edition.imprint.IsUnmarked → ∀ property ∈ edition.properties,
        ∀ (front : List String) (line : String) (back : List String),
          Text.lines (target.fileOf edition []) = front ++ line :: back →
          target.declared? line = some property.name →
          let text := Text.unlines (front ++ (line ++ target.tag) :: back)
          target.revise (some text) edition = ⟨.unchanged, text⟩ := by
  intro hall
  let property : Property := ⟨"images", "images", .array (.object "Images"), false⟩
  let edition : Edition :=
    ⟨"Product", [property], ⟨"Shop", some "Ada", none, none, ⟨2018, 1, 4⟩⟩⟩
  have hnamed : property.IsNamed objcSource := ⟨by decide, by decide⟩
  have hedition : edition.IsNamed objcSource :=
    ⟨by decide, List.forall_mem_singleton.2 hnamed, by decide⟩
  have hkeys : ∀ property ∈ edition.properties, Unmarked property.key := by decide
  have hproperty : property ∈ edition.properties := List.mem_singleton_self property
  have hloop : objcSource.IsLoop property := ⟨rfl, "Images", rfl⟩
  obtain ⟨above, line, hdeclares⟩ := exists_declares_objcSource hnamed
  obtain ⟨front, back, hlines, -, htext, hagain⟩ :=
    exists_lines_contents_revise (by decide) hedition hkeys (by decide) (by decide) hproperty
      hdeclares
  have hsame := hall objcSource edition (by decide) hedition hkeys (by decide) (by decide) property
    hproperty (front ++ above) line back hlines hdeclares.declared?_eq
  rw [hsame, htext, hdeclares.lines_editedText_loop hloop objcSource.not_mem_tag] at hagain
  have hlength := congrArg List.length hagain
  have habove := List.length_pos_iff.2 (hdeclares.editedText_loop hloop).1
  simp only [List.length_append, List.length_cons, List.length_nil] at hlength
  omega

end Target

end PayloadModels
