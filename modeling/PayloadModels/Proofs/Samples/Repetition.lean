import PayloadModels.Generation.Files
import PayloadModels.Proofs.Samples.Loading
import PayloadModels.Proofs.Schema.Repetition

/-!
# Samples that are listed again

A call that is repeated leaves the names and properties of a set as they were and adds the objects
that it shows to the iterations (`see_again`). What is written about a set is told by its names and
properties (`rendered_congr`), so a payload file that is listed twice among the samples of a model
changes nothing that is written.
-/

namespace PayloadModels

open Json

/-- The texts of a set are told by the names of its models and by their properties. -/
theorem Generator.rendered_congr (generator : Generator) {set other : ModelSet}
    (hset : set.Consistent) (hother : other.Consistent) (hnames : set.names = other.names)
    (hproperties : ∀ name propertyName, (set.get? name).map (·.properties propertyName)
      = (other.get? name).map (·.properties propertyName)) :
    generator.rendered set = generator.rendered other := by
  have hdefault : ∀ name propertyName, ((set.get? name).getD ∅).properties propertyName
      = ((other.get? name).getD ∅).properties propertyName := by
    intro name propertyName
    have hfound := congrArg (·.getD (ObservedModel.properties ∅ propertyName))
      (hproperties name propertyName)
    simpa only [Option.getD_map] using hfound
  rw [rendered, rendered, hset.models_eq_map, hother.models_eq_map, hnames, List.flatMap_map,
    List.flatMap_map]
  simp only [file, hdefault]

namespace ModelSet

/-- Calls that were all made before change nothing that is written about a set. -/
theorem rendered_ofSightings_append_of_subset {front again back : List Sighting}
    (hkeys : ∀ sighting ∈ front ++ back, sighting.value.DistinctKeys) (h : again ⊆ front)
    (generator : Generator) : generator.rendered (ofSightings (front ++ again ++ back))
      = generator.rendered (ofSightings (front ++ back)) :=
  generator.rendered_congr (consistent_ofSightings _) (consistent_ofSightings _)
    (names_ofSightings_append_of_subset h back) (properties_get?_append_of_subset hkeys h)

/-- Objects with distinct keys have them when they are shown, too. -/
theorem distinctKeys_object (name : String) {objects : List Members}
    (h : ∀ members ∈ objects, (Json.obj members).DistinctKeys) :
    ∀ sighting ∈ objects.map (Sighting.object name), sighting.value.DistinctKeys := by
  rw [List.forall_mem_map]
  exact h

/-- Files that were all listed before change nothing that is written, and no error either, wherever
they are listed again. -/
theorem rendered_ofFiles_append_of_subset (generator : Generator) (disk : Disk) (name : String)
    {front again : List Path} (h : again ⊆ front) (back : List Path) :
    (ofFiles disk name (front ++ again ++ back)).map generator.rendered
      = (ofFiles disk name (front ++ back)).map generator.rendered := by
  simp only [ofFiles_eq, List.mapM_append]
  cases hfront : front.mapM (Payload.load disk) with
  | error error => rfl
  | ok frontObjects =>
    obtain ⟨againObjects, hagain, hsubset⟩ := exists_mapM_eq_ok_of_subset hfront h
    rw [hagain]
    cases hback : back.mapM (Payload.load disk) with
    | error error => rfl
    | ok backObjects =>
      have hkeys : ∀ members ∈ (frontObjects ++ backObjects).flatten,
          (Json.obj members).DistinctKeys := by
        rw [List.flatten_append, List.forall_mem_append]
        exact ⟨Payload.distinctKeys_of_mapM_load hfront, Payload.distinctKeys_of_mapM_load hback⟩
      have hagain : againObjects.flatten.map (Sighting.object name)
          ⊆ frontObjects.flatten.map (Sighting.object name) := by
        rw [← List.flatMap_id, ← List.flatMap_id]
        exact List.map_subset _ (flatMap_subset id hsubset)
      have hkeys := distinctKeys_object name hkeys
      rw [List.flatten_append, List.map_append] at hkeys
      have hrendered := rendered_ofSightings_append_of_subset hkeys hagain generator
      simp only [← List.map_append, ← List.flatten_append] at hrendered
      exact congrArg Except.ok hrendered

/-- The last call is made on the set that the others have led to. -/
theorem ofSightings_concat (sightings : List Sighting) (sighting : Sighting) :
    ofSightings (sightings ++ [sighting]) = (ofSightings sightings).see sighting := by
  simp [ofSightings]

/-- A call that was made before changes nothing but the iterations when it is made again, which
grow by the objects that it shows: the models and their properties stay as they were, in order, and
so does all that is written about the set. A payload file that is listed again among the samples of
a model therefore changes nothing that is written, and no error. -/
theorem see_again {sightings : List Sighting}
    (hkeys : ∀ sighting ∈ sightings, sighting.value.DistinctKeys) {sighting : Sighting}
    (h : sighting ∈ sightings) :
    ((ofSightings sightings).see sighting).names = (ofSightings sightings).names ∧
      (∀ name,
        (∀ propertyName, (((ofSightings sightings).see sighting).get? name).map
              (·.properties propertyName)
            = ((ofSightings sightings).get? name).map (·.properties propertyName)) ∧
          (((ofSightings sightings).see sighting).get? name).elim 0 (·.iterations)
            = ((ofSightings sightings).get? name).elim 0 (·.iterations)
              + (objectsOf name [sighting]).length) ∧
      ∀ generator : Generator,
        generator.rendered ((ofSightings sightings).see sighting)
            = generator.rendered (ofSightings sightings) ∧
          ∀ disk name front middle back file,
            (ofFiles disk name (front ++ file :: middle ++ file :: back)).map generator.rendered
              = (ofFiles disk name (front ++ file :: middle ++ back)).map generator.rendered := by
  have hagain : [sighting] ⊆ sightings := List.cons_subset.2 ⟨h, List.nil_subset _⟩
  have hkeys : ∀ sighting ∈ sightings ++ [], sighting.value.DistinctKeys := by
    rwa [List.append_nil]
  rw [← ofSightings_concat]
  refine ⟨?_, fun name => ⟨fun propertyName => ?_, ?_⟩, fun generator => ⟨?_, ?_⟩⟩
  · simpa using names_ofSightings_append_of_subset hagain []
  · simpa using properties_get?_append_of_subset hkeys hagain name propertyName
  · rw [iterations_get?_ofSightings, iterations_get?_ofSightings, objectsOf_append,
      List.length_append]
  · simpa using rendered_ofSightings_append_of_subset hkeys hagain generator
  · intro disk name front middle back file
    have hfile : [file] ⊆ front ++ file :: middle := by simp
    simpa using rendered_ofFiles_append_of_subset generator disk name hfile back

/-- A node whose child is a node, with a value that is a text at first and a number then, which is
refused: when the first node is shown again the value is still a text, and the child still optional,
though there are five nodes now instead of three. -/
theorem see_again_nodes :
    let whole : Sighting := .object "Node" [("value", .str "a"), ("node", .obj [("value", .null)])]
    let other : Sighting := .object "Node" [("value", .num (.int 3))]
    whole ∈ [whole, other] ∧
      ((ofSightings [whole, other]).see whole).names = ["Node"] ∧
      (((ofSightings [whole, other]).see whole).get? "Node").elim 0 (·.iterations) = 5 ∧
      (((ofSightings [whole, other]).see whole).get? "Node").map (·.properties id)
        = some [⟨"value", "value", .string, true⟩, ⟨"node", "node", .object "Node", true⟩] := by
  intro whole other
  have hkeys : ∀ sighting ∈ [whole, other], sighting.value.DistinctKeys := by
    simp [whole, other, Sighting.value]
  have hwhole : whole ∈ [whole, other] := by simp
  have hobjects : objectsOf "Node" [whole, other]
      = [[("value", .str "a"), ("node", .obj [("value", .null)])], [("value", .null)],
        [("value", .num (.int 3))]] := by rfl
  obtain ⟨hnames, hmodels, -⟩ := see_again hkeys hwhole
  obtain ⟨hproperties, hiterations⟩ := hmodels "Node"
  refine ⟨hwhole, hnames.trans ?_, hiterations.trans ?_, (hproperties id).trans ?_⟩
  · rw [names_ofSightings]
    rfl
  · rw [iterations_get?_ofSightings, hobjects]
    rfl
  · rw [get?_ofSightings, hobjects, if_neg (by simp)]
    rfl

end ModelSet

end PayloadModels
