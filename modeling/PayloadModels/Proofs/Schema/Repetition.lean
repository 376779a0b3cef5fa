import PayloadModels.Proofs.Schema.Discovery
import PayloadModels.Proofs.Schema.Occurrences

/-!
# Samples that are shown again

Showing a payload again that a set has seen adds to the iterations of its models and changes
nothing else, wherever among the calls it comes again (`properties_get?_append_of_subset`). Each of
the three parts of a property forgets repetition: keys stand where they were first seen, a type that
was merged once is merged into itself or is refused once more, and a key is optional when some
object lacks it, however often that object is seen.
-/

namespace PayloadModels

open Json

/-- What some members bring along, more members bring along, too. -/
theorem flatMap_subset {α β : Type} {xs ys : List α} (f : α → List β) (h : xs ⊆ ys) :
    xs.flatMap f ⊆ ys.flatMap f := by
  intro b hb
  obtain ⟨a, ha, hb⟩ := List.mem_flatMap.1 hb
  exact List.mem_flatMap.2 ⟨a, h ha, hb⟩

namespace ObservedModel

variable {front again back : List Members} {key : String}

/-- More objects show more types for a key, behind those of the first ones. -/
theorem typesUnder_append (key : String) (objects others : List Members) :
    typesUnder key (objects ++ others) = typesUnder key objects ++ typesUnder key others := by
  simp [typesUnder]

/-- Objects that are shown again show no new types. -/
theorem typesUnder_subset (key : String) (h : again ⊆ front) :
    typesUnder key again ⊆ typesUnder key front :=
  List.map_subset _ (flatMap_subset _ h)

/-- Objects that are shown again leave the keys as they are. -/
theorem keys_foldl_record_append_of_subset (h : again ⊆ front) (back : List Members) :
    ((front ++ again ++ back).foldl record ∅).keys = ((front ++ back).foldl record ∅).keys := by
  simp only [keys_foldl_record, List.flatMap_append]
  exact eraseDups_append_of_subset (flatMap_subset _ h) _

/-- Objects that are shown again leave the types as they are. -/
theorem type?_foldl_record_append_of_subset (h : again ⊆ front) (back : List Members)
    (key : String) : ((front ++ again ++ back).foldl record ∅).type? key
      = ((front ++ back).foldl record ∅).type? key := by
  have htypes := typesUnder_subset key h
  have hnone : typesUnder key front ++ typesUnder key again ++ typesUnder key back = []
      ↔ typesUnder key front ++ typesUnder key back = [] := by
    simp only [List.append_eq_nil_iff]
    exact ⟨fun h => ⟨h.1.1, h.2⟩, fun h => ⟨⟨h.1, List.subset_nil.1 (h.1 ▸ htypes)⟩, h.2⟩⟩
  simp only [type?_foldl_record, typesUnder_append, hnone,
    PropertyType.foldl_mergeOrKeep_append_of_subset htypes]

/-- Which keys are optional is told by the objects that there are, whatever their order and however
often they are seen. -/
theorem isOptional?_foldl_record_congr {objects others : List Members}
    (h : ∀ members ∈ objects, (members.map (·.1)).Nodup)
    (hsame : ∀ members, members ∈ objects ↔ members ∈ others) (key : String) :
    (objects.foldl record ∅).isOptional? key = (others.foldl record ∅).isOptional? key := by
  have hothers : ∀ members ∈ others, (members.map (·.1)).Nodup := fun members hmembers =>
    h members ((hsame members).2 hmembers)
  cases hfound : (objects.foldl record ∅).isOptional? key with
  | none =>
    rw [isOptional?_foldl_record_eq_none h] at hfound
    exact ((isOptional?_foldl_record_eq_none hothers).2 fun members hmembers =>
      hfound members ((hsame members).2 hmembers)).symm
  | some optional =>
    cases hother : (others.foldl record ∅).isOptional? key with
    | none =>
      rw [isOptional?_foldl_record_eq_none hothers] at hother
      have hnone := (isOptional?_foldl_record_eq_none h).2 fun members hmembers =>
        hother members ((hsame members).1 hmembers)
      rw [hnone] at hfound
      cases hfound
    | some other =>
      have hiff := isOptional?_foldl_record_eq_some h hfound
      simp only [hsame, ← isOptional?_foldl_record_eq_some hothers hother] at hiff
      rw [Option.some.injEq, Bool.eq_iff_iff, hiff]

/-- Objects that were all seen before leave the properties as they were, wherever they are seen
again. -/
theorem properties_foldl_record_append_of_subset
    (hkeys : ∀ members ∈ front ++ back, (members.map (·.1)).Nodup) (h : again ⊆ front)
    (propertyName : String → String) :
    ((front ++ again ++ back).foldl record ∅).properties propertyName
      = ((front ++ back).foldl record ∅).properties propertyName := by
  have hsame : ∀ members, members ∈ front ++ back ↔ members ∈ front ++ again ++ back := by
    intro members
    simp only [List.mem_append]
    exact ⟨fun hm => hm.imp_left .inl, fun hm => hm.imp_left fun hm => hm.elim id (@h members)⟩
  exact properties_congr (nodupKeys_foldl_record _) (nodupKeys_foldl_record _)
    (keys_foldl_record_append_of_subset h back) (type?_foldl_record_append_of_subset h back)
    (fun key => (isOptional?_foldl_record_congr hkeys hsame key).symm) propertyName

end ObservedModel

/-! ## Sets -/

/-- More calls show more objects of a model, behind those of the first ones. -/
theorem objectsOf_append (name : String) (front back : List Sighting) :
    objectsOf name (front ++ back) = objectsOf name front ++ objectsOf name back := by
  simp [objectsOf, membersOf]

/-- Calls that are made again show no new objects. -/
theorem objectsOf_subset (name : String) {front again : List Sighting} (h : again ⊆ front) :
    objectsOf name again ⊆ objectsOf name front :=
  List.map_subset _ (List.filter_subset _ (flatMap_subset _ h))

namespace ModelSet

variable {front again back : List Sighting}

/-- Calls that were all made before discover no model when they are made again. -/
theorem names_ofSightings_append_of_subset (h : again ⊆ front) (back : List Sighting) :
    (ofSightings (front ++ again ++ back)).names = (ofSightings (front ++ back)).names := by
  simp only [names_ofSightings, namesSeen_append]
  exact eraseDups_append_of_subset (List.map_subset _ (flatMap_subset _ h)) _

/-- Calls that were all made before leave the properties of every model as they were when they are
made again. -/
theorem properties_get?_append_of_subset
    (hkeys : ∀ sighting ∈ front ++ back, sighting.value.DistinctKeys) (h : again ⊆ front)
    (name : String) (propertyName : String → String) :
    ((ofSightings (front ++ again ++ back)).get? name).map (·.properties propertyName)
      = ((ofSightings (front ++ back)).get? name).map (·.properties propertyName) := by
  have hobjects := objectsOf_subset name h
  have hnodup : ∀ members ∈ objectsOf name front ++ objectsOf name back,
      (members.map (·.1)).Nodup := fun members hmembers =>
    nodup_keys_of_mem_objectsOf hkeys (objectsOf_append name front back ▸ hmembers)
  have hnone : objectsOf name front ++ objectsOf name again ++ objectsOf name back = []
      ↔ objectsOf name front ++ objectsOf name back = [] := by
    simp only [List.append_eq_nil_iff]
    exact ⟨fun h => ⟨h.1.1, h.2⟩, fun h => ⟨⟨h.1, List.subset_nil.1 (h.1 ▸ hobjects)⟩, h.2⟩⟩
  simp only [get?_ofSightings, objectsOf_append, hnone]
  split
  · rfl
  · rw [Option.map_some, Option.map_some,
      ObservedModel.properties_foldl_record_append_of_subset hnodup hobjects]

end ModelSet

end PayloadModels
