import PayloadModels.Proofs.Naming.Capitals
import PayloadModels.Proofs.Samples.Names
import PayloadModels.Proofs.Schema.References
import PayloadModels.Proofs.Target.PropertyNames
import PayloadModels.Proofs.Text.Cutting
import PayloadModels.Target.Declaration

/-!
# Names of models and reserved words

The declaration of a model has the model's name as it is (`Target.declaredModel?_opening`), so a
name that is a reserved word of the target is declared all the same. Which reserved words become
names of models is told by the objects that are shown
(`ModelSet.reservedWord_mem_names_iff`). The name of a root is whatever was handed in. A name that a
key gives is in upper camel case and begins with no small letter, as nearly all reserved words do:
the one that is left is `Self`, in Rust (`Target.eq_self_of_upperCamel_mem_reservedWords`).
-/

namespace PayloadModels

open Json Naming

namespace Target

/-! ## Declarations of models -/

/-- What stands before the name of a model where it is declared. -/
def modelLead : Target → String
  | swift => "struct "
  | kotlin => "data class "
  | objcSource => "@implementation "
  | objcHeader => "@interface "
  | rust => "pub struct "

/-- What stands behind the name of a model where it is declared. -/
def modelEnd : Target → Char
  | swift | objcHeader => ':'
  | kotlin => '('
  | objcSource => '\n'
  | rust => ' '

/-- The model that a text declares. -/
def declaredModel? (target : Target) (text : String) : Option String :=
  (Text.cutAt target.modelLead.toList text.toList).bind fun (_, rest) =>
    (Text.cutAt [target.modelEnd] rest).map fun (name, _) => String.ofList name

/-- Where the target declares a model, the name stands between what leads to it and what ends it. -/
theorem exists_opening_eq (target : Target) (model : String) : ∃ front back : List Char,
    (target.opening model).toList
        = front ++ (target.modelLead.toList ++ (model.toList ++ target.modelEnd :: back)) ∧
      ¬ target.modelLead.toList <:+: front ++ target.modelLead.toList.dropLast := by
  cases target with
  | swift => exact ⟨[], " Codable \x7b".toList, by simp [opening, modelLead, modelEnd], by decide⟩
  | kotlin => exact ⟨[], [], by simp [opening, modelLead, modelEnd], by decide⟩
  | objcSource =>
    refine ⟨[], (Text.unlines ["", objcInitializer ++ " \x7b", "    self = [super init];",
      "    if (self) \x7b"]).toList, ?_, by decide⟩
    simp [opening, Text.unlines, String.intercalate_cons_cons, modelLead, modelEnd]
  | objcHeader => exact ⟨[], " NSObject".toList, by simp [opening, modelLead, modelEnd], by decide⟩
  | rust =>
    refine ⟨"#[derive(Debug, Clone, PartialEq, Serialize, Deserialize)]\n".toList, ['\x7b'], ?_,
      by decide +kernel⟩
    simp [opening, Text.unlines, String.intercalate_cons_cons, modelLead, modelEnd]

/-- The declaration of a model declares it under its name. -/
theorem declaredModel?_opening (target : Target) {model : String} (h : IsNameText model) :
    target.declaredModel? (target.opening model) = some model := by
  obtain ⟨front, back, heq, hfirst⟩ := exists_opening_eq target model
  have hlead : target.modelLead.toList ≠ [] := by cases target <;> decide
  have hend : target.modelEnd ∉ model.toList := fun hmem =>
    absurd (h _ hmem) (by cases target <;> decide)
  have hcut : Text.cutAt [target.modelEnd] (model.toList ++ target.modelEnd :: back)
      = some (model.toList, back) := Text.cutAt_append hend [] back
  rw [declaredModel?, (Text.cutAt_eq_some_iff hlead).2 ⟨heq, hfirst⟩]
  show (Text.cutAt _ _).map _ = _
  rw [hcut]
  exact congrArg some String.ofList_toList

/-! ## Reserved words -/

/-- A reserved word begins with a small letter, but for one of Rust. -/
theorem beginsSmall_of_mem_reservedWords {target : Target} {word : String}
    (h : word ∈ target.reservedWords) :
    beginsSmall word ∧ word ≠ "value" ∨ target = rust ∧ word = "Self" := by
  have hall : ∀ word ∈ target.reservedWords,
      beginsSmall word ∧ word ≠ "value" ∨ target = rust ∧ word = "Self" := by
    cases target <;> decide
  exact hall word h

/-- A name in upper camel case is a reserved word only as the `Self` of Rust. -/
theorem eq_self_of_upperCamel_mem_reservedWords {target : Target} {key : String}
    (h : upperCamel key ∈ target.reservedWords) : target = rust ∧ upperCamel key = "Self" := by
  rcases beginsSmall_of_mem_reservedWords h with ⟨hsmall, hvalue⟩ | hself
  · exact absurd (eq_value_of_beginsSmall_upperCamel hsmall) hvalue
  · exact hself

end Target

/-! ## The models of a set -/

/-- The last key on a way. -/
def Json.lastKey? : List Step → Option String
  | [] => none
  | .item _ :: way => lastKey? way
  | .member key :: way => (lastKey? way).or (some key)

/-- An object belongs to the model that the last key on its way names, if there is one. -/
theorem Json.modelAt_eq_elim (root : String) (way : List Step) :
    modelAt root way = (lastKey? way).elim root upperCamel := by
  induction way generalizing root with
  | nil => rfl
  | cons step way ih =>
    cases step with
    | item => exact ih root
    | member key =>
      rw [modelAt, ih, lastKey?]
      cases lastKey? way <;> rfl

namespace ModelSet

/-- The name of a model is that of a root which shows an object, or that of a key which an object
stands behind. -/
theorem mem_names_iff_lastKey? {sightings : List Sighting} {name : String} :
    name ∈ (ofSightings sightings).names ↔ ∃ sighting ∈ sightings,
      ∃ node ∈ sighting.value.objects, node.isShown ∧
        (lastKey? node.way).elim sighting.model upperCamel = name := by
  simp only [mem_names_iff, mem_objectsOf, modelAt_eq_elim]
  constructor
  · rintro ⟨members, sighting, hsighting, node, hnode, hshown, hname, -⟩
    exact ⟨sighting, hsighting, node, hnode, hshown, hname⟩
  · rintro ⟨sighting, hsighting, node, hnode, hshown, hname⟩
    exact ⟨node.members, sighting, hsighting, node, hnode, hshown, hname, rfl⟩

/-- Every model is declared under its name, and a reserved word is the name of a model exactly when
a root of that name shows an object, or, for the `Self` of Rust, when an object is shown behind a
key that is `Self` in upper camel case. -/
theorem reservedWord_mem_names_iff {sightings : List Sighting}
    (h : ∀ sighting ∈ sightings, isModelName sighting.model) (target : Target) :
    (∀ name ∈ (ofSightings sightings).names,
        target.declaredModel? (target.opening name) = some name) ∧
      ∀ word ∈ target.reservedWords, word ∈ (ofSightings sightings).names ↔
        ∃ sighting ∈ sightings, ∃ node ∈ sighting.value.objects, node.isShown ∧
          match lastKey? node.way with
          | none => word = sighting.model
          | some key => target = .rust ∧ word = "Self" ∧ upperCamel key = "Self" := by
  refine ⟨fun name hname => target.declaredModel?_opening (isNameText_of_mem_names h name hname),
    fun word hword => ?_⟩
  rw [mem_names_iff_lastKey?]
  refine exists_congr fun sighting => and_congr_right fun _ => exists_congr fun node =>
    and_congr_right fun _ => and_congr_right fun _ => ?_
  cases lastKey? node.way with
  | none => exact eq_comm
  | some key =>
    constructor
    · rintro rfl
      obtain ⟨hrust, hself⟩ := Target.eq_self_of_upperCamel_mem_reservedWords hword
      exact ⟨hrust, hself, hself⟩
    · rintro ⟨-, rfl, hself⟩
      exact hself

/-- A payload that links to itself, as many do. -/
def selfLinked : List Sighting :=
  [.payload "Account" (.obj [("self", .obj [("href", .str "/accounts/1")])])]

/-- The payload shows an object that the key `self` leads to. -/
theorem exists_node_selfLinked : ∃ sighting ∈ selfLinked, ∃ node ∈ sighting.value.objects,
    node.isShown ∧ lastKey? node.way = some "self" :=
  ⟨_, List.mem_cons_self, _, .tail _ (.head _), rfl, rfl⟩

/-- The key `self` names the model `Self`. -/
theorem upperCamel_self : upperCamel "self" = "Self" := by decide

/-- The object behind the key `self` of an account is declared in Rust as a model of the name
`Self`. -/
theorem reservedWord_mem_names_self :
    (∀ sighting ∈ selfLinked, isModelName sighting.model) ∧
      "Self" ∈ Target.rust.reservedWords ∧ "Self" ∈ (ofSightings selfLinked).names ∧
      Target.rust.declaredModel? (Target.rust.opening "Self") = some "Self" := by
  have hroots : ∀ sighting ∈ selfLinked, isModelName sighting.model := by decide
  have hword : "Self" ∈ Target.rust.reservedWords := by decide
  obtain ⟨hdeclared, hnames⟩ := reservedWord_mem_names_iff hroots .rust
  obtain ⟨sighting, hsighting, node, hnode, hshown, hkey⟩ := exists_node_selfLinked
  have hself : "Self" ∈ (ofSightings selfLinked).names := by
    refine (hnames "Self" hword).2 ⟨sighting, hsighting, node, hnode, hshown, ?_⟩
    rw [hkey]
    exact ⟨rfl, rfl, upperCamel_self⟩
  exact ⟨hroots, hword, hself, hdeclared "Self" hself⟩

/-- Names that roots may have and names that keys give are declared even if they are reserved. -/
theorem not_reservedWord_not_mem_names :
    ¬ ∀ sightings : List Sighting, (∀ sighting ∈ sightings, isModelName sighting.model) →
      ∀ name ∈ (ofSightings sightings).names, ∀ target : Target, name ∉ target.reservedWords := by
  intro h
  obtain ⟨sighting, hsighting, node, hnode, hshown, hkey⟩ := exists_node_selfLinked
  have hself : "Self" ∈ (ofSightings selfLinked).names := by
    refine mem_names_iff_lastKey?.2 ⟨sighting, hsighting, node, hnode, hshown, ?_⟩
    rw [hkey]
    exact upperCamel_self
  exact h selfLinked (by decide) "Self" hself .rust (by decide)

end ModelSet

end PayloadModels
