import PayloadModels.Proofs.Generation.Tagging

/-!
# Files declare each property once

When the declarations are read back from the lines of a rendered file, they name the properties that
are written, in some order (`Target.declaredNames_fileOf_perm`): nothing around the properties
declares one, and the text of a property declares that property only. Of properties with one name
the first is written (`mem_distinctNames_iff`), so a file declares each name once, and the text of
the first property with that name is what declares it (`Target.declaredNames_fileOf`).
-/

namespace PayloadModels

/-! ## The first property with a name -/

/-- The properties that are written are those that are found under their names. -/
theorem mem_distinctNames_iff {properties : List Property} {property : Property} :
    property ∈ distinctNames properties
      ↔ properties.find? (·.name = property.name) = some property := by
  induction properties with
  | nil => simp [distinctNames]
  | cons first rest ih =>
    by_cases hname : first.name = property.name
    · -- Nothing in the rest is kept under the name of the first.
      rw [distinctNames, List.mem_cons, List.mem_filter, List.find?_cons_of_pos (by simp [hname])]
      simp [hname, eq_comm]
    · have hne : property ≠ first := fun heq => hname (heq ▸ rfl)
      rw [distinctNames, List.mem_cons, List.mem_filter, ih,
        List.find?_cons_of_neg (by simp [hname])]
      simp [hne, Ne.symm hname]

/-- Of the properties of a name, one is written. -/
theorem mem_names_distinctNames {properties : List Property} {name : String} :
    name ∈ (distinctNames properties).map (·.name) ↔ name ∈ properties.map (·.name) := by
  constructor
  · intro h
    obtain ⟨kept, hkept, rfl⟩ := List.mem_map.1 h
    exact List.mem_map_of_mem (mem_of_mem_distinctNames hkept)
  · intro h
    obtain ⟨property, hproperty, rfl⟩ := List.mem_map.1 h
    obtain ⟨kept, hkept, hname⟩ := exists_mem_distinctNames hproperty
    exact List.mem_map.2 ⟨kept, hkept, hname⟩

namespace Target

variable {target : Target} {edition : Edition}

/-- A file is written of the properties with different names. -/
theorem fileOf_distinctNames (target : Target) (edition : Edition) (edits : List HandEdit) :
    target.fileOf { edition with properties := distinctNames edition.properties } edits
      = target.fileOf edition edits := by
  have hagain : distinctNames (distinctNames edition.properties)
      = distinctNames edition.properties :=
    distinctNames_eq_self (nodup_names_distinctNames edition.properties)
  rw [fileOf, fileOf, render, render, hagain]

/-! ## The declarations of a file -/

/-- The declarations of a file are those of the properties that are written. -/
theorem declaredNames_fileOf_perm (htarget : target ≠ .kotlin)
    (hmodel : Naming.IsNameText edition.model) (himprint : edition.imprint.IsPlain)
    (hproperties : ∀ property ∈ edition.properties, property.IsNamed target) :
    (target.declaredNames (target.fileOf edition [])).Perm
      ((distinctNames edition.properties).map (·.name)) := by
  have hplain : edition.IsPlain := ⟨hmodel.not_mem_newline,
    fun property hproperty => (hproperties property hproperty).isPlain, himprint⟩
  rw [fileOf_eq, declaredNames_unlines, List.map_eq_flatMap]
  refine flatMap_texts_perm (declaredNames_above htarget hmodel hplain)
    (declaredNames_below hplain) fun property hproperty => ?_
  have hnamed := hproperties property (mem_of_mem_distinctNames hproperty)
  obtain ⟨above, line, hdeclares⟩ := exists_declares htarget hnamed
  exact hdeclares.declaredNames_propertyText

/-- The text of the first property with a name is the only one in a file that declares the name. -/
theorem exists_lines_fileOf_first (htarget : target ≠ .kotlin)
    (hmodel : Naming.IsNameText edition.model) (himprint : edition.imprint.IsPlain)
    (hproperties : ∀ property ∈ edition.properties, property.IsNamed target) {first : Property}
    (hfirst : edition.properties.find? (·.name = first.name) = some first) :
    ∃ front back : List String, Text.lines (target.fileOf edition [])
        = front ++ Text.lines (target.propertyText first) ++ back ∧
      ∀ line ∈ front ++ back, target.declared? line ≠ some first.name := by
  let written : Edition := { edition with properties := distinctNames edition.properties }
  have hwritten : written.IsNamed target :=
    ⟨hmodel, fun property hproperty => hproperties property (mem_of_mem_distinctNames hproperty),
      nodup_names_distinctNames edition.properties⟩
  obtain ⟨front, back, hothers, hlines⟩ := exists_lines_fileOf_eq htarget hwritten himprint
    (mem_distinctNames_iff.2 hfirst)
  refine ⟨front, back, ?_, hothers⟩
  have htext := hlines [] (by simp)
  rwa [fileOf_distinctNames] at htext

/-- The header and the source of an Objective-C model name properties alike. -/
theorem isNamed_objcHeader_iff {property : Property} :
    property.IsNamed objcHeader ↔ property.IsNamed objcSource :=
  ⟨fun h => ⟨h.name, h.type⟩, fun h => ⟨h.name, h.type⟩⟩

/-- In every target but Kotlin, a file that is rendered without hand edits declares the name of each
property once and declares nothing else, and the text of the first property with that name is what
declares it. So the header of an Objective-C model declares what its source assigns. -/
theorem declaredNames_fileOf (edition : Edition) (hmodel : Naming.IsNameText edition.model)
    (himprint : edition.imprint.IsPlain) :
    (∀ target : Target, target ≠ .kotlin →
      (∀ property ∈ edition.properties, property.IsNamed target) →
        let file := target.fileOf edition []
        (target.declaredNames file).Nodup ∧
          (∀ name, name ∈ target.declaredNames file ↔ name ∈ edition.properties.map (·.name)) ∧
          ∀ name first, edition.properties.find? (·.name = name) = some first →
            ∃ front back : List String,
              Text.lines file = front ++ Text.lines (target.propertyText first) ++ back ∧
              ∀ line ∈ front ++ back, target.declared? line ≠ some name) ∧
      ((∀ property ∈ edition.properties, property.IsNamed objcSource) →
        (objcHeader.declaredNames (objcHeader.fileOf edition [])).Perm
          (objcSource.declaredNames (objcSource.fileOf edition []))) := by
  constructor
  · intro target htarget hproperties file
    have hperm := declaredNames_fileOf_perm htarget hmodel himprint hproperties
    refine ⟨?_, fun name => ?_, fun name first hfirst => ?_⟩
    · exact hperm.nodup_iff.2 (nodup_names_distinctNames edition.properties)
    · rw [hperm.mem_iff, mem_names_distinctNames]
    · have hname : first.name = name := by simpa using List.find?_some hfirst
      subst hname
      exact exists_lines_fileOf_first htarget hmodel himprint hproperties hfirst
  · intro hproperties
    have hheader : ∀ property ∈ edition.properties, property.IsNamed objcHeader :=
      fun property hproperty => isNamed_objcHeader_iff.2 (hproperties property hproperty)
    have hdeclared := declaredNames_fileOf_perm (by decide) hmodel himprint hheader
    have hassigned := declaredNames_fileOf_perm (by decide) hmodel himprint hproperties
    exact hdeclared.trans hassigned.symm

/-- Two keys with one name: the identifier of a product is declared as the first has it. -/
theorem declaredNames_fileOf_product :
    let id : Property := ⟨"product_id", "productId", .int, false⟩
    let again : Property := ⟨"productId", "productId", .string, true⟩
    let images : Property := ⟨"images", "images", .array (.object "Image"), false⟩
    let edition : Edition :=
      ⟨"Product", [id, images, again], ⟨"Shop", some "Ada", none, none, ⟨2018, 1, 4⟩⟩⟩
    Naming.IsNameText edition.model ∧ edition.imprint.IsPlain ∧
      (∀ property ∈ edition.properties, property.IsNamed objcSource) ∧
      (∀ name, name ∈ objcSource.declaredNames (objcSource.fileOf edition [])
        ↔ name = "productId" ∨ name = "images") ∧
      (objcSource.declaredNames (objcSource.fileOf edition [])).Nodup ∧
      (∃ front back : List String, Text.lines (objcSource.fileOf edition [])
          = front ++ Text.lines (objcSource.propertyText id) ++ back ∧
        ∀ line ∈ front ++ back, objcSource.declared? line ≠ some "productId") ∧
      (objcHeader.declaredNames (objcHeader.fileOf edition [])).Perm
        (objcSource.declaredNames (objcSource.fileOf edition [])) := by
  intro id again images edition
  have hmodel : Naming.IsNameText edition.model := by decide
  have himprint : edition.imprint.IsPlain := by decide
  have hproperties : ∀ property ∈ edition.properties, property.IsNamed objcSource := by
    simp only [edition, List.forall_mem_cons]
    exact ⟨⟨by decide, by decide⟩, ⟨by decide, by decide⟩,
      ⟨by decide, by decide⟩, by simp⟩
  have hid : edition.properties.find? (·.name = "productId") = some id :=
    List.find?_cons_of_pos (by decide)
  obtain ⟨hall, hheader⟩ := declaredNames_fileOf edition hmodel himprint
  obtain ⟨hnodup, hnames, hfirst⟩ := hall objcSource (by decide) hproperties
  refine ⟨hmodel, himprint, hproperties, fun name => ?_, hnodup, hfirst _ _ hid,
    hheader hproperties⟩
  rw [hnames]
  simp only [edition, id, again, images, List.map_cons, List.map_nil, List.mem_cons,
    List.not_mem_nil, or_false]
  rw [or_left_comm, or_self, or_comm]

end Target

end PayloadModels
