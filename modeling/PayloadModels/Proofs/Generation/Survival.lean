import PayloadModels.Proofs.Generation.Convergence

/-!
# Hand edits survive

A line that was edited by hand to declare a property stays in the file through any number of runs,
as long as every run writes the property: the models may change from run to run in every other way.
What one run keeps (`find?_ofText_textAfter`) is the first edit of the property in the file, and by
induction so does every run (`find?_ofText_rewrite`). In each file the line stands exactly once,
where the text of the property would be (`survives_rewrite`).
-/

namespace PayloadModels

namespace HandEdit

/-- The first edit of a property is the first tagged line that declares it. -/
theorem find?_ofText (target : Target) (text name : String) :
    find? (ofText target text) name = ((Text.lines text).find? fun line =>
      isTagged target line && target.declared? line = some name).map fun line => ⟨line, name⟩ := by
  rw [ofText_eq, find?]
  induction Text.lines text with
  | nil => rfl
  | cons line lines ih =>
    by_cases hline : isTagged target line ∧ target.declared? line = some name
    · have hedit : ofLine? target line = some ⟨line, name⟩ :=
        ofLine?_eq_some.2 ⟨hline.1, hline.2, rfl⟩
      rw [List.filterMap_cons_some hedit, List.find?_cons_of_pos (by simp),
        List.find?_cons_of_pos (by simpa using hline)]
      rfl
    · rw [List.find?_cons_of_neg (by simpa using hline), ← ih]
      cases hedit : ofLine? target line with
      | none => rw [List.filterMap_cons_none hedit]
      | some edit =>
        obtain ⟨htagged, hdeclared, -⟩ := ofLine?_eq_some.1 hedit
        have hother : edit.name ≠ name := fun heq => hline ⟨htagged, heq ▸ hdeclared⟩
        rw [List.filterMap_cons_some hedit, List.find?_cons_of_neg (by simpa using hother)]

/-- A hand edit is in a text as often as its line. -/
theorem count_ofText {target : Target} {edit : HandEdit} (h : edit.IsLine target) (text : String) :
    (ofText target text).count edit = (Text.lines text).count edit.line := by
  rw [ofText_eq, List.count_filterMap, List.count_eq_countP]
  refine List.countP_congr fun line _ => ?_
  rw [beq_iff_eq, beq_iff_eq]
  constructor
  · intro hedit
    exact (ofLine?_eq_some.1 hedit).2.2.symm
  · rintro rfl
    exact h.ofLine?_line

end HandEdit

namespace Target

/-- The text of a file after some editions were written over it, one after another. -/
def rewrite (target : Target) (text : String) (editions : List Edition) : String :=
  editions.foldl (fun text edition => (target.revise (some text) edition).textAfter (some text)) text

open scoped List

variable {target : Target} {edition : Edition} {text name : String} {edit : HandEdit}

/-- A run keeps the first edit of a property that it writes. -/
theorem find?_ofText_textAfter (h : edition.IsUnmarked)
    (hname : ∃ property ∈ edition.properties, property.name = name)
    (hfind : HandEdit.find? (HandEdit.ofText target text) name = some edit) :
    HandEdit.find? (HandEdit.ofText target
      ((target.revise (some text) edition).textAfter (some text))) name = some edit := by
  rcases textAfter_revise target (some text) edition with hwritten | ⟨old, hold, hkept, -⟩
  · rw [hwritten, contents_revise, find?_ofText_fileOf h isLine_of_mem_elim, if_pos hname]
    exact hfind
  · cases hold
    rw [hkept]
    exact hfind

/-- Any number of runs keep the first edit of a property that each of them writes. -/
theorem find?_ofText_rewrite {editions : List Edition}
    (h : ∀ edition ∈ editions, edition.IsUnmarked ∧
      ∃ property ∈ edition.properties, property.name = name)
    (hfind : HandEdit.find? (HandEdit.ofText target text) name = some edit) :
    HandEdit.find? (HandEdit.ofText target (target.rewrite text editions)) name = some edit := by
  induction editions generalizing text with
  | nil => exact hfind
  | cons edition editions ih =>
    obtain ⟨hedition, heditions⟩ := List.forall_mem_cons.1 h
    exact ih heditions (find?_ofText_textAfter hedition.1 hedition.2 hfind)

/-- In a rendered file the line of an edit stands exactly once. -/
theorem count_lines_fileOf {edits : List HandEdit} (h : edition.IsUnmarked)
    (hedits : ∀ edit ∈ edits, edit.IsLine target)
    (hname : ∃ property ∈ edition.properties, property.name = name)
    (hfind : HandEdit.find? edits name = some edit) :
    (Text.lines (target.fileOf edition edits)).count edit.line = 1 := by
  have hmem : edit ∈ HandEdit.ofText target (target.fileOf edition edits) := by
    have hfound := find?_ofText_fileOf h hedits name
    rw [if_pos hname, hfind] at hfound
    exact (HandEdit.find?_eq_some hfound).1
  have hnodup : (HandEdit.ofText target (target.fileOf edition edits)).Nodup :=
    (List.pairwise_map.1 (nodup_names_ofText_fileOf h hedits)).imp fun hne heq =>
      hne (congrArg HandEdit.name heq)
  rw [← HandEdit.count_ofText (hedits edit (HandEdit.find?_eq_some hfind).1), hnodup.count,
    if_pos hmem]

/-! ## The place of a hand edit -/

/-- Without the edits of a property, its generated text is written. -/
theorem keptText_filter_self (edits : List HandEdit) (property : Property) :
    target.keptText (edits.filter (·.name ≠ property.name)) property
      = target.propertyText property :=
  keptText_eq_propertyText fun _ hedit => by simpa using (List.mem_filter.1 hedit).2

/-- Another property is written the same without them. -/
theorem keptText_filter_of_ne (edits : List HandEdit) {property other : Property}
    (h : other.name ≠ property.name) :
    target.keptText (edits.filter (·.name ≠ property.name)) other
      = target.keptText edits other := by
  have hfind : HandEdit.find? (edits.filter (·.name ≠ property.name)) other.name
      = HandEdit.find? edits other.name := by
    rw [HandEdit.find?, HandEdit.find?, List.find?_filter]
    congr 1
    funext edit
    by_cases hname : edit.name = other.name <;> simp [hname, h]
  rw [keptText, keptText, hfind]

/-- The edited line stands where the generated text of its property would be: without the edit, the
rest is the same up to its order. -/
theorem exists_body_eq {properties : List Property} {edits : List HandEdit} {property : Property}
    (hnames : (properties.map (·.name)).Nodup) (hproperty : property ∈ properties)
    (hfind : HandEdit.find? edits property.name = some edit) :
    ∃ front back, target.body properties edits
        = front ++ target.editedText property edit.line :: back ∧
      target.body properties (edits.filter (·.name ≠ property.name))
        ~ target.propertyText property :: (front ++ back) := by
  have hkept : target.keptText edits property = target.editedText property edit.line := by
    rw [keptText, hfind]
  obtain ⟨before, behind, rfl⟩ := List.append_of_mem hproperty
  have hothers : ∀ other ∈ before ++ behind, other.name ≠ property.name := by
    rw [(List.perm_middle.map _).nodup_iff, List.map_cons, List.nodup_cons] at hnames
    exact fun other hother hname => hnames.1 (hname ▸ List.mem_map_of_mem hother)
  have hbody := (body_perm target (before ++ property :: behind) edits).trans
    (List.perm_middle.map _)
  rw [List.map_cons, hkept] at hbody
  obtain ⟨front, back, heq⟩ := List.append_of_mem (hbody.mem_iff.2 List.mem_cons_self)
  have hrest : front ++ back ~ (before ++ behind).map (target.keptText edits) := by
    rw [heq] at hbody
    exact (List.perm_middle.symm.trans hbody).cons_inv
  have hsame : (before ++ behind).map
      (target.keptText (edits.filter (·.name ≠ property.name)))
        = (before ++ behind).map (target.keptText edits) :=
    List.map_congr_left fun other hother => keptText_filter_of_ne edits (hothers other hother)
  refine ⟨front, back, heq, ?_⟩
  calc target.body (before ++ property :: behind) (edits.filter (·.name ≠ property.name))
      ~ (property :: (before ++ behind)).map
          (target.keptText (edits.filter (·.name ≠ property.name))) :=
        (body_perm target _ _).trans (List.perm_middle.map _)
    _ = target.propertyText property :: (before ++ behind).map (target.keptText edits) := by
        rw [List.map_cons, keptText_filter_self, hsame]
    _ ~ target.propertyText property :: (front ++ back) := hrest.symm.cons _

/-- A tagged line that is the first in a file to declare a property stands in every file that any
number of runs render, once and in the place of the text of the property, and in every file that
they leave, where it is again the first. -/
theorem survives_rewrite (target : Target) (text name line : String)
    (hfirst : (Text.lines text).find? (fun line =>
      HandEdit.isTagged target line && target.declared? line = some name) = some line)
    (earlier : List Edition) (next : Edition)
    (h : ∀ edition ∈ earlier ++ [next], edition.IsUnmarked ∧
      ∃ property ∈ edition.properties, property.name = name) :
    let before := target.rewrite text earlier
    let revision := target.revise (some before) next
    let after := revision.textAfter (some before)
    (Text.lines revision.contents).count line = 1 ∧
      (∃ property ∈ distinctNames next.properties, property.name = name ∧
        ∃ front back others, revision.contents = Text.unlines (target.above next
            ++ (front ++ target.editedText property line :: back) ++ target.below next) ∧
          target.fileOf next ((HandEdit.ofText target before).filter (·.name ≠ name))
            = Text.unlines (target.above next ++ others ++ target.below next) ∧
          others ~ target.propertyText property :: (front ++ back)) ∧
      line ∈ Text.lines after ∧
      HandEdit.find? (HandEdit.ofText target after) name = some ⟨line, name⟩ := by
  intro before revision after
  obtain ⟨hearlier, hnext⟩ := List.forall_mem_append.1 h
  obtain ⟨hunmarked, hname⟩ := hnext next List.mem_cons_self
  have hfind : HandEdit.find? (HandEdit.ofText target text) name = some ⟨line, name⟩ := by
    rw [HandEdit.find?_ofText, hfirst]
    rfl
  have hbefore : HandEdit.find? (HandEdit.ofText target before) name = some ⟨line, name⟩ :=
    find?_ofText_rewrite hearlier hfind
  have hafter : HandEdit.find? (HandEdit.ofText target after) name = some ⟨line, name⟩ :=
    find?_ofText_textAfter hunmarked hname hbefore
  have hcount := count_lines_fileOf hunmarked (fun edit => HandEdit.isLine_of_mem_ofText)
    hname hbefore
  refine ⟨hcount, ?_, ?_, hafter⟩
  · obtain ⟨property, hproperty, rfl⟩ := hname
    obtain ⟨kept, hkept, hkeptName⟩ := exists_mem_distinctNames hproperty
    rw [← hkeptName] at hbefore ⊢
    obtain ⟨front, back, hbody, hothers⟩ :=
      exists_body_eq (nodup_names_distinctNames next.properties) hkept hbefore
    refine ⟨kept, hkept, rfl, front, back, _, ?_, fileOf_eq _ _ _, hothers⟩
    rw [← hbody, contents_revise, fileOf_eq]
    rfl
  · have hmem := (HandEdit.find?_eq_some hafter).1
    rw [HandEdit.ofText_eq, List.mem_filterMap] at hmem
    obtain ⟨held, hheld, hedit⟩ := hmem
    obtain ⟨-, -, rfl⟩ := HandEdit.ofLine?_eq_some.1 hedit
    exact hheld

/-- A run that changes the type of an edited property and gives it a neighbour, after one that
wrote it alone. -/
theorem survives_rewrite_rating :
    let text := "struct Rating: Codable \x7b\n    let average: Decimal // modelsync:custom\n\x7d"
    let line := "    let average: Decimal // modelsync:custom"
    let imprint : Imprint := ⟨"Shop", some "Ada", none, none, ⟨2018, 1, 4⟩⟩
    let first : Edition := ⟨"Rating", [⟨"average", "average", .double, false⟩], imprint⟩
    let next : Edition :=
      ⟨"Rating", [⟨"avg", "average", .array .int, true⟩, ⟨"count", "count", .int, false⟩], imprint⟩
    let revision := swift.revise (some (swift.rewrite text [first])) next
    (Text.lines text).find? (fun line =>
        HandEdit.isTagged swift line && swift.declared? line = some "average") = some line ∧
      (∀ edition ∈ [first] ++ [next], edition.IsUnmarked ∧
        ∃ property ∈ edition.properties, property.name = "average") ∧
      (Text.lines revision.contents).count line = 1 := by
  intro text line imprint first next revision
  have hfirst : (Text.lines text).find? (fun line =>
      HandEdit.isTagged swift line && swift.declared? line = some "average") = some line := by
    decide
  have h : ∀ edition ∈ [first] ++ [next], edition.IsUnmarked ∧
      ∃ property ∈ edition.properties, property.name = "average" := by
    decide
  exact ⟨hfirst, h, (survives_rewrite swift text "average" line hfirst [first] next h).1⟩

end Target

end PayloadModels
