import PayloadModels.Proofs.Generation.Tagging

/-!
# Generated lines that look edited

A file that was rendered without hand edits has none when it is read again, unless a payload key
holds the comment that keeps a line. Such a key does no harm where it stands apart from the line
that declares its property, but Kotlin and Objective-C write it into that line (`Target.showsKey`):
the generated line is then taken for an edited one (`Target.looksEdited`) and kept from there on.
These are the only hand edits of such a file (`Target.ofText_fileOf_nil`).
-/

namespace PayloadModels

namespace HandEdit

variable {target : Target} {property : Property}

/-- A text has no hand edits when none of its lines declares a property. -/
theorem ofText_eq_nil_of_declaredNames {text : String} (h : target.declaredNames text = []) :
    ofText target text = [] := by
  rw [ofText_eq, List.filterMap_eq_nil_iff]
  intro line hline
  have hdeclared : target.declared? line = none := List.filterMap_eq_nil_iff.1 h line hline
  rw [ofLine?, hdeclared]
  split <;> rfl

/-- A line that declares nothing is no hand edit. -/
theorem ofText_eq_nil_of_declared? {text : String} (hline : '\n' ∉ text.toList)
    (h : target.declared? text = none) : ofText target text = [] := by
  refine ofText_eq_nil_of_declaredNames ?_
  rw [Target.declaredNames, Text.lines_eq_singleton hline, List.filterMap_cons_none h]
  rfl

/-- The hand edit of a text with one line is that line, if it is tagged. -/
theorem lines_ofText_of_declared? {text : String} (hline : '\n' ∉ text.toList)
    (hdeclared : (target.declared? text).isSome) :
    (ofText target text).map (·.line) = if isTagged target text then [text] else [] := by
  obtain ⟨name, hname⟩ := Option.isSome_iff_exists.1 hdeclared
  rw [ofText_eq, Text.lines_eq_singleton hline]
  by_cases htagged : isTagged target text = true
  · have hedit : ofLine? target text = some ⟨text, name⟩ := ofLine?_eq_some.2 ⟨htagged, hname, rfl⟩
    rw [List.filterMap_cons_some hedit, if_pos htagged]
    rfl
  · have hnone : ofLine? target text = none := if_neg htagged
    rw [List.filterMap_cons_none hnone, if_neg htagged]
    rfl

/-! ## Keys between quotes -/

/-- A text is tagged when the comment that keeps lines stands somewhere in it. -/
theorem isTagged_iff {text : String} : isTagged target text = true
    ↔ (target.lineComment ++ " " ++ handEditMark).toList <:+: text.toList := Text.contains_iff

/-- The comment does not get across a quote. -/
theorem isTagged_append_quote (front back : String) :
    isTagged target (front ++ "\"" ++ back) = (isTagged target front || isTagged target back) := by
  have hfence : Text.IsFence (target.lineComment ++ " " ++ handEditMark).toList "\"".toList := by
    cases target <;> decide
  have hchars : (front ++ "\"" ++ back).toList = front.toList ++ "\"".toList ++ back.toList := by
    simp
  rw [Bool.eq_iff_iff, Bool.or_eq_true, isTagged_iff, isTagged_iff, isTagged_iff, hchars,
    hfence.infix_append_append_iff]

/-- Between unmarked texts, a text between quotes is tagged when it is without them. -/
theorem isTagged_quoted {front text back : String} (hfront : Unmarked front)
    (hback : Unmarked back) :
    isTagged target (front ++ "\"" ++ (text ++ "\"" ++ back)) = isTagged target text := by
  rw [isTagged_append_quote, isTagged_append_quote, isTagged_eq_false hfront,
    isTagged_eq_false hback, Bool.false_or, Bool.or_false]

/-- Escaping neither makes nor breaks the tag. -/
theorem isTagged_escape (key : String) :
    isTagged target (Literal.escape key) = isTagged target key := by
  rw [Bool.eq_iff_iff, isTagged_iff, isTagged_iff]
  refine infix_escape_iff ?_ ?_
  all_goals cases target <;> decide

/-- Escaping dollar signs neither makes nor breaks the tag. -/
theorem isTagged_dollarsEscaped (text : String) :
    isTagged target (Literal.dollarsEscaped text) = isTagged target text := by
  rw [Bool.eq_iff_iff, isTagged_iff, isTagged_iff]
  refine infix_dollarsEscaped_iff ?_ ?_
  all_goals cases target <;> decide

end HandEdit

namespace Target

open HandEdit

variable {target : Target} {property : Property} {edition : Edition}

/-- Whether the line that declares a property is written with the property's key in it, where the
key is not the name itself. -/
def showsKey (target : Target) (property : Property) : Bool :=
  match target with
  | kotlin => true
  | objcSource =>
    match property.type with
    | .array (.object _) => false
    | _ => true
  | swift | objcHeader | rust => false

/-- Whether the line that is generated for a property looks like one that was edited by hand. -/
def looksEdited (target : Target) (property : Property) : Bool :=
  target.showsKey property && isTagged target property.key

/-! ## Kotlin -/

/-- In Kotlin, a line declares something when a colon stands behind `val `. -/
theorem isSome_declared?_kotlin (front name back : String) :
    (kotlin.declared? (front ++ "val " ++ (name ++ ":" ++ back))).isSome := by
  have hmark : "val ".toList ≠ [] := by decide
  have hcolon : [':'] ≠ [] := by decide
  obtain ⟨before, after, hval, middle, hafter⟩ :=
    Text.exists_cutAt_append hmark front.toList (name ++ ":" ++ back).toList
  obtain ⟨early, rest, hcut, -⟩ :=
    Text.exists_cutAt_append hcolon (middle ++ name.toList) back.toList
  have hchars : (front ++ "val " ++ (name ++ ":" ++ back)).toList
      = front.toList ++ ("val ".toList ++ (name ++ ":" ++ back).toList) := by simp
  have hsplit : after = middle ++ name.toList ++ ([':'] ++ back.toList) := by
    rw [← hafter]
    simp
  have hname : nameBefore? ':' after = some (String.ofList (Text.trim early)) := by
    rw [nameBefore?, hsplit, hcut]
    rfl
  rw [declared?, hchars]
  simp only [hval]
  exact congrArg Option.isSome hname

/-- A Kotlin parameter holds the comment when its key does. -/
theorem isTagged_kotlinParameter (h : property.IsNamed kotlin) :
    isTagged kotlin (kotlinParameter property) = isTagged kotlin property.key := by
  have htype : Unmarked (kotlinType property.type) := unmarked_kotlinType h.isUnmarked_type
  have hdeclared : Unmarked (if property.isOptional then kotlinType property.type ++ "? = null"
      else kotlinType property.type) := by
    split
    · simp (disch := decide) [htype]
    · exact htype
  unfold kotlinParameter
  dsimp only
  generalize (if property.isOptional then kotlinType property.type ++ "? = null"
    else kotlinType property.type) = declared at hdeclared
  by_cases hrenamed : isRenamed property
  · have htext : "    " ++ ("@SerializedName(\""
        ++ Literal.dollarsEscaped (Literal.escape property.key) ++ "\") ")
        ++ "val " ++ property.name ++ ": " ++ declared ++ ","
        = "    @SerializedName(" ++ "\"" ++ (Literal.dollarsEscaped (Literal.escape property.key)
          ++ "\"" ++ (") val " ++ property.name ++ ": " ++ declared ++ ",")) := by
      apply String.toList_inj.1
      simp
    rw [if_pos hrenamed, htext, isTagged_quoted (by decide), isTagged_dollarsEscaped,
      isTagged_escape]
    simp (disch := decide) [h.unmarked_name, hdeclared]
  · have hkey : ':' ∉ property.key.toList := by
      have hbare :=
        Wire.withoutBackquotes_of_not_isRenamed (.inr rfl) h.name (by simpa using hrenamed)
      rw [← hbare, Wire.withoutBackquotes, String.toList_ofList]
      exact fun hmem => h.not_mem_name (by decide) (List.mem_of_mem_filter hmem)
    rw [if_neg hrenamed, isTagged_eq_false (unmarked_of_not_mem hkey), isTagged_eq_false]
    simp (disch := decide) [h.unmarked_name, hdeclared]

/-- The one line of a Kotlin parameter is a hand edit where it looks like one. -/
theorem lines_ofText_kotlinParameter (h : property.IsNamed kotlin) :
    (ofText kotlin (kotlinParameter property)).map (·.line)
      = if kotlin.looksEdited property then [kotlinParameter property] else [] := by
  have hdeclared : (kotlin.declared? (kotlinParameter property)).isSome := by
    unfold kotlinParameter
    dsimp only
    generalize (if property.isOptional then kotlinType property.type ++ "? = null"
      else kotlinType property.type) = declared
    generalize (if isRenamed property then "@SerializedName(\""
      ++ Literal.dollarsEscaped (Literal.escape property.key) ++ "\") " else "") = annotation
    have htext : "    " ++ annotation ++ "val " ++ property.name ++ ": " ++ declared ++ ","
        = "    " ++ annotation ++ "val " ++ (property.name ++ ":" ++ (" " ++ declared ++ ",")) := by
      apply String.toList_inj.1
      simp
    rw [htext]
    exact isSome_declared?_kotlin _ _ _
  rw [lines_ofText_of_declared? (not_mem_kotlinParameter h.isPlain) hdeclared,
    isTagged_kotlinParameter h, looksEdited, showsKey, Bool.true_and]

/-! ## Objective-C -/

/-- A text that goes on with a payload key holds the comment when the key does or what follows. -/
theorem isTagged_append_objcPayload {front : String} (hfront : Unmarked front) (key back : String) :
    isTagged target (front ++ objcPayload key ++ back)
      = (isTagged target key || isTagged target ("]" ++ back)) := by
  have htext : front ++ objcPayload key ++ back
      = front ++ "dictionary[@" ++ "\"" ++ (Literal.escape key ++ "\"" ++ ("]" ++ back)) := by
    simp only [objcPayload, Literal.quote, String.append_assoc]
  have hopen : Unmarked (front ++ "dictionary[@") := (unmarked_append_right (by decide)).2 hfront
  rw [htext, isTagged_append_quote, isTagged_append_quote, isTagged_eq_false hopen, isTagged_escape,
    Bool.false_or]

/-- So does a statement in which the payload is wrapped, when the wrapping does not hold it. -/
theorem isTagged_append_wrapped {front before after : String} (hfront : Unmarked front)
    (hbefore : Seam before) (hafter : Unmarked ("]" ++ (after ++ ";"))) (key : String) :
    isTagged target (front ++ (before ++ objcPayload key ++ after) ++ ";")
      = isTagged target key := by
  have htext : front ++ (before ++ objcPayload key ++ after) ++ ";"
      = front ++ before ++ objcPayload key ++ (after ++ ";") := by
    simp only [String.append_assoc]
  rw [htext, isTagged_append_objcPayload ((unmarked_append_right hbefore).2 hfront),
    isTagged_eq_false hafter, Bool.or_false]

/-- Where the value is a model, the key is written twice, once where the value is tested and once
where it is used. -/
theorem isTagged_append_dictionaryTest {front model : String} (hfront : Unmarked front)
    (hmodel : Unmarked model) (key : String) :
    isTagged target (front ++ ("[" ++ objcPayload key
      ++ " isKindOfClass:[NSDictionary class]] ? [[" ++ model ++ " alloc] initWithDictionary:"
      ++ objcPayload key ++ "] : nil") ++ ";") = isTagged target key := by
  have htext : front ++ ("[" ++ objcPayload key
      ++ " isKindOfClass:[NSDictionary class]] ? [[" ++ model ++ " alloc] initWithDictionary:"
      ++ objcPayload key ++ "] : nil") ++ ";"
      = front ++ "[" ++ objcPayload key ++ (" isKindOfClass:[NSDictionary class]] ? [["
        ++ model ++ " alloc] initWithDictionary:" ++ objcPayload key ++ "] : nil;") := by
    apply String.toList_inj.1
    simp
  have hsecond : "]" ++ (" isKindOfClass:[NSDictionary class]] ? [[" ++ model
      ++ " alloc] initWithDictionary:" ++ objcPayload key ++ "] : nil;")
      = "] isKindOfClass:[NSDictionary class]] ? [[" ++ model ++ " alloc] initWithDictionary:"
        ++ objcPayload key ++ "] : nil;" := by
    apply String.toList_inj.1
    simp
  have hbetween : Unmarked ("] isKindOfClass:[NSDictionary class]] ? [[" ++ model
      ++ " alloc] initWithDictionary:") := by
    simp (disch := decide) [hmodel]
  have hclose : Unmarked ("]" ++ "] : nil;") := by decide
  rw [htext, isTagged_append_objcPayload ((unmarked_append_right (by decide)).2 hfront), hsecond,
    isTagged_append_objcPayload hbetween, isTagged_eq_false hclose, Bool.or_false, Bool.or_self]

/-- In an assignment, the tag can stand in the key only. -/
theorem isTagged_append_objcValue (h : property.IsNamed objcSource) {front : String}
    (hfront : Unmarked front) :
    isTagged target (front ++ objcValue property.type property.key ++ ";")
      = isTagged target property.key := by
  unfold objcValue
  split
  · exact isTagged_append_wrapped hfront (by decide) (by decide) property.key
  · exact isTagged_append_wrapped hfront (by decide) (by decide) property.key
  · exact isTagged_append_wrapped hfront (by decide) (by decide) property.key
  · next model htype =>
    exact isTagged_append_dictionaryTest hfront
      (h.isUnmarked_type model (by rw [htype]; rfl)) property.key
  all_goals
    have hclose : Unmarked ("]" ++ ";") := by decide
    rw [isTagged_append_objcPayload hfront, isTagged_eq_false hclose, Bool.or_false]

/-- An assignment is taken for an edited line when its key holds the comment. -/
theorem lines_ofText_objcAssignment_of_not_isLoop (h : property.IsNamed objcSource)
    (hloop : ¬ objcSource.IsLoop property) :
    (ofText objcSource (objcAssignment property)).map (·.line)
      = if isTagged objcSource property.key then [objcAssignment property] else [] := by
  have hfront : Unmarked ("        _" ++ property.name ++ " = ") := by
    simp (disch := decide) [h.unmarked_name]
  have htext := objcAssignment_of_not_isLoop hloop
  have hline : '\n' ∉ (objcAssignment property).toList := by
    simp [htext, h.isPlain.name, not_mem_objcValue h.isPlain]
  have hdeclared : (objcSource.declared? (objcAssignment property)).isSome := by
    rw [htext, declared?_assignment h]
    rfl
  have htagged : isTagged objcSource (objcAssignment property)
      = isTagged objcSource property.key := by
    rw [htext, ← String.append_assoc]
    exact isTagged_append_objcValue h hfront
  rw [lines_ofText_of_declared? hline hdeclared, htagged]

/-- The line of a loop that shows the key declares nothing, and the others do not show it. -/
theorem ofText_objcAssignment_of_isLoop (h : property.IsNamed objcSource)
    (hloop : objcSource.IsLoop property) : ofText objcSource (objcAssignment property) = [] := by
  obtain ⟨-, model, htype⟩ := hloop
  have hname := h.unmarked_name
  have hmodel : Unmarked model := h.isUnmarked_type model (by rw [htype]; rfl)
  have hkeyLine : '\n' ∉ ("        for (NSDictionary *item in "
      ++ (objcPayload property.key ++ ") \x7b")).toList := by
    simp [not_mem_objcPayload]
  have hquiet : objcSource.declared? ("        for (NSDictionary *item in "
      ++ (objcPayload property.key ++ ") \x7b")) = none := by
    have hlead : objcSource.IsQuiet "        for (NSDictionary *item in " := by decide
    exact declared?_eq_none hlead (by simp)
  have hloopLine : ofText objcSource ("        for (NSDictionary *item in "
      ++ (objcPayload property.key ++ ") \x7b")) = [] :=
    ofText_eq_nil_of_declared? hkeyLine hquiet
  rw [objcAssignment, htype, ofText_unlines (List.cons_ne_nil _ _)]
  simp only [List.flatMap_eq_nil_iff, List.forall_mem_cons]
  refine ⟨ofText_eq_nil ?_, ?_, ofText_eq_nil ?_, ofText_eq_nil (by decide), ofText_eq_nil ?_,
    by simp⟩
  · simp (disch := decide) [hname]
  · rwa [← String.append_assoc] at hloopLine
  · simp (disch := decide) [hname, hmodel]
  · simp (disch := decide) [hname]

/-- An implementation shows a property's key on the line that declares it, unless that is in a loop.
-/
theorem showsKey_objcSource :
    objcSource.showsKey property = true ↔ ¬ objcSource.IsLoop property := by
  unfold showsKey
  dsimp only
  split
  · next model htype => simp [IsLoop, htype]
  · next hother => simpa [IsLoop] using hother

/-! ## All targets -/

/-- Of what a target writes for a property, the only hand edit is the line that looks edited. -/
theorem lines_ofText_propertyText (h : property.IsNamed target) :
    (ofText target (target.propertyText property)).map (·.line)
      = if target.looksEdited property then [target.propertyText property] else [] := by
  have hkeyless : Unmarked (target.propertyText { property with key := "" }) :=
    unmarked_propertyText target ⟨unmarked_empty, h.unmarked_name, h.isUnmarked_type⟩
  cases target with
  | swift =>
    -- The text is that of the property without its key.
    have htext : ofText swift (swift.propertyText property) = [] :=
      ofText_eq_nil hkeyless
    rw [htext]
    rfl
  | kotlin => exact lines_ofText_kotlinParameter h
  | objcSource =>
    by_cases hloop : objcSource.IsLoop property
    · have htext : ofText objcSource (objcSource.propertyText property) = [] :=
        ofText_objcAssignment_of_isLoop h hloop
      have hshows : objcSource.showsKey property = false :=
        Bool.eq_false_iff.2 fun hshows => showsKey_objcSource.1 hshows hloop
      rw [htext, looksEdited, hshows]
      rfl
    · rw [looksEdited, showsKey_objcSource.2 hloop, Bool.true_and]
      exact lines_ofText_objcAssignment_of_not_isLoop h hloop
  | objcHeader =>
    have htext : ofText objcHeader (objcHeader.propertyText property) = [] :=
      ofText_eq_nil hkeyless
    rw [htext]
    rfl
  | rust =>
    -- The key stands in the attribute, whose line declares nothing.
    obtain ⟨above, habove, hfield⟩ := exists_withDecodingAttribute_eq property
    have hattributes : ∀ text ∈ above, ofText rust text = [] := fun text htext =>
      ofText_eq_nil_of_declared? (habove text htext).1 (habove text htext).2
    have htext : ofText rust (rust.propertyText property) = [] := by
      show ofText rust (withDecodingAttribute property _) = []
      rw [hfield, ofText_unlines (by simp), List.flatMap_append,
        List.flatMap_eq_nil_iff.2 hattributes, List.flatMap_singleton, List.nil_append]
      exact ofText_eq_nil (unmarked_rustField h.isUnmarked_type h.unmarked_name)
    rw [htext]
    rfl

/-- Mapping what is left of a list puts together what each member gives. -/
theorem map_filter_eq_flatMap {α β : Type} (p : α → Bool) (f : α → β) (xs : List α) :
    (xs.filter p).map f = xs.flatMap fun x => if p x then [f x] else [] := by
  induction xs with
  | nil => rfl
  | cons x xs ih =>
    rw [List.filter_cons, List.flatMap_cons, ← ih]
    split <;> rfl

/-- The hand edits of a file that was rendered without any are the lines that look edited. -/
theorem lines_ofText_fileOf_perm (hmodel : Naming.IsNameText edition.model)
    (hproperties : ∀ property ∈ edition.properties, property.IsNamed target)
    (hplain : edition.imprint.IsPlain) (hunmarked : edition.imprint.IsUnmarked) :
    ((ofText target (target.fileOf edition [])).map (·.line)).Perm
      (((distinctNames edition.properties).filter target.looksEdited).map target.propertyText) := by
  have hname : Unmarked edition.model :=
    unmarked_of_not_mem fun hmem => Naming.not_isNameChar_colon (hmodel _ hmem)
  have hedition : edition.IsPlain := ⟨hmodel.not_mem_newline,
    fun property hproperty => (hproperties property hproperty).isPlain, hplain⟩
  rw [fileOf_eq, ofText_unlines (by simp [above]), List.map_flatMap, map_filter_eq_flatMap]
  refine flatMap_texts_perm (fun text htext => ?_) (fun text htext => ?_)
    fun property hproperty => ?_
  · have htypes : ∀ property ∈ edition.properties, property.type.IsUnmarked :=
      fun property hproperty => (hproperties property hproperty).isUnmarked_type
    rw [ofText_eq_nil (unmarked_of_mem_above hname htypes hunmarked htext)]
    rfl
  · rw [ofText_eq_nil_of_declaredNames (declaredNames_below hedition text htext)]
    rfl
  · exact lines_ofText_propertyText (hproperties property (mem_of_mem_distinctNames hproperty))

/-- When a file that was rendered without hand edits is read again, its hand edits are the generated
lines that look edited. So it has none unless a key holds the comment where it is shown, and then
later editions are rendered as if there were no earlier file. -/
theorem ofText_fileOf_nil (hmodel : Naming.IsNameText edition.model)
    (hproperties : ∀ property ∈ edition.properties, property.IsNamed target)
    (hplain : edition.imprint.IsPlain) (hunmarked : edition.imprint.IsUnmarked) :
    let text := target.fileOf edition []
    let properties := distinctNames edition.properties
    ((ofText target text).map (·.line)).Perm
        ((properties.filter target.looksEdited).map target.propertyText) ∧
      (ofText target text = [] ↔ ∀ property ∈ properties, target.looksEdited property = false) ∧
      ((∀ property ∈ properties, target.looksEdited property = false) →
        ∀ later : Edition, (target.revise (some text) later).contents = target.fileOf later []) := by
  intro text properties
  have hlines := lines_ofText_fileOf_perm hmodel hproperties hplain hunmarked
  have hnone : ofText target text = []
      ↔ ∀ property ∈ properties, target.looksEdited property = false := by
    rw [← List.map_eq_nil_iff, ← List.length_eq_zero_iff, hlines.length_eq, List.length_eq_zero_iff,
      List.map_eq_nil_iff, List.filter_eq_nil_iff]
    simp only [Bool.not_eq_true, properties]
  refine ⟨hlines, hnone, fun hquiet later => ?_⟩
  rw [contents_revise, Option.elim_some, hnone.2 hquiet]

/-- The comment in the key of a list of models does no harm in Objective-C. -/
theorem ofText_fileOf_nil_product :
    let key := "images // modelsync:custom"
    let property : Property := ⟨key, objcSource.propertyName key, .array (.object "Images"), false⟩
    let other : Property := ⟨"price", "price", .double, true⟩
    let edition : Edition :=
      ⟨"Product", [property, other], ⟨"Shop", some "Ada", none, none, ⟨2018, 1, 4⟩⟩⟩
    Naming.IsNameText edition.model ∧ (∀ property ∈ edition.properties, property.IsNamed objcSource) ∧
      edition.imprint.IsPlain ∧ edition.imprint.IsUnmarked ∧
      ofText objcSource (objcSource.fileOf edition []) = [] := by
  intro key property other edition
  have hmodel : Naming.IsNameText edition.model := by decide
  have hproperties : ∀ property ∈ edition.properties, property.IsNamed objcSource := by
    have hproperty : property.IsNamed objcSource := ⟨rfl, by decide⟩
    have hother : other.IsNamed objcSource := ⟨by decide, by decide⟩
    exact List.forall_mem_cons.2 ⟨hproperty, List.forall_mem_singleton.2 hother⟩
  have hplain : edition.imprint.IsPlain := by decide
  have hunmarked : edition.imprint.IsUnmarked := by decide
  have hquiet : ∀ kept ∈ distinctNames edition.properties, objcSource.looksEdited kept = false := by
    intro kept hkept
    have hmem : kept ∈ [property, other] := mem_of_mem_distinctNames hkept
    simp only [List.mem_cons, List.not_mem_nil, or_false] at hmem
    rcases hmem with rfl | rfl
    · decide
    · decide
  exact ⟨hmodel, hproperties, hplain, hunmarked,
    (ofText_fileOf_nil hmodel hproperties hplain hunmarked).2.1.2 hquiet⟩

/-- A Kotlin parameter whose key holds the comment is taken for an edited line. -/
theorem not_ofText_fileOf_eq_nil :
    ¬ ∀ (target : Target) (edition : Edition), Naming.IsNameText edition.model →
      (∀ property ∈ edition.properties, property.IsNamed target) → edition.imprint.IsPlain →
      edition.imprint.IsUnmarked → ofText target (target.fileOf edition []) = [] := by
  intro hall
  let key := "rate // modelsync:custom"
  let property : Property := ⟨key, kotlin.propertyName key, .int, false⟩
  let edition : Edition := ⟨"Rating", [property], ⟨"Shop", some "Ada", none, none, ⟨2018, 1, 4⟩⟩⟩
  have hproperties : ∀ property ∈ edition.properties, property.IsNamed kotlin :=
    List.forall_mem_singleton.2 ⟨rfl, by decide⟩
  have hnames : (edition.properties.map (·.name)).Nodup := List.nodup_singleton _
  have hlooks : kotlin.looksEdited property = true := by decide
  have hlines : ([] : List String).Perm [kotlin.propertyText property] := by
    have hperm := lines_ofText_fileOf_perm (by decide) hproperties (by decide) (by decide)
    rwa [hall kotlin edition (by decide) hproperties (by decide) (by decide),
      distinctNames_eq_self hnames, List.filter_cons_of_pos hlooks] at hperm
  exact absurd hlines.length_eq (by decide)

end Target

end PayloadModels
