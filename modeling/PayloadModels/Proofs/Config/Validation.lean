import PayloadModels.Config.Reader
import PayloadModels.Proofs.Fallible

/-!
# Which configurations are valid

A root model is at fault on its own account or because its name was declared before
(`ModelSource.HasFault`), and which position of a configuration is at fault with what is told by the
declarations alone, also by those before it that are at fault themselves (`FaultAt`). Validation is
a single pass that carries the names along and stops at once, so it reports the first position at
fault (`validateModels_eq_error_iff`); and it accepts what has no such position, which is the same
as names in the form of identifiers, pairwise distinct, and sources for each
(`Config.validate_eq_ok_iff`).
-/

namespace PayloadModels

/-- The form of an identifier: an ASCII letter, then ASCII letters, digits and underscores. -/
def IsModelName (name : String) : Prop :=
  ∃ first rest, name.toList = first :: rest ∧ first.isAlpha ∧
    ∀ c ∈ rest, c.isAlphanum ∨ c = '_'

/-- The check of names accepts the names in the right form. -/
theorem isModelName_iff {name : String} : isModelName name ↔ IsModelName name := by
  unfold isModelName IsModelName
  split
  · next h => simp [h]
  · next first rest h => simp [h]

/-! ## Declarations at fault -/

/-- What is wrong with a declaration that comes after others, whose names are `seen`. Of several
faults the first in this order counts. -/
inductive ModelSource.HasFault (seen : List String) (model : ModelSource) : ConfigFault → Prop where
  | badName : ¬ IsModelName model.name → HasFault seen model (.badName model.name)
  | repeatedName : IsModelName model.name → model.name ∈ seen →
      HasFault seen model (.repeatedName model.name)
  | noSources : IsModelName model.name → model.name ∉ seen → model.sources = [] →
      HasFault seen model (.noSources model.name)

/-- What is wrong with the declaration at a position, where `seen` are names from before all of the
declarations. -/
def FaultAt (seen : List String) (models : List ModelSource) (i : Nat) (fault : ConfigFault) :
    Prop :=
  ∃ model, models[i]? = some model ∧ model.HasFault (seen ++ (models.take i).map (·.name)) fault

variable {seen others : List String} {model : ModelSource} {models : List ModelSource}
  {fault : ConfigFault} {i : Nat}

namespace ModelSource

/-- A model without fault has a name in the right form that is new, and a source. -/
theorem forall_not_hasFault_iff : (∀ fault, ¬ model.HasFault seen fault)
    ↔ IsModelName model.name ∧ model.name ∉ seen ∧ model.sources ≠ [] := by
  constructor
  · intro h
    have hname : IsModelName model.name := by_contra fun hbad => h _ (.badName hbad)
    have hnew : model.name ∉ seen := fun hseen => h _ (.repeatedName hname hseen)
    exact ⟨hname, hnew, fun hempty => h _ (.noSources hname hnew hempty)⟩
  · rintro ⟨hname, hnew, hsources⟩ fault (hbad | ⟨-, hseen⟩ | ⟨-, -, hempty⟩)
    · exact hbad hname
    · exact hnew hseen
    · exact hsources hempty

/-- Of the faults of a declaration only one counts. -/
theorem HasFault.unique {other : ConfigFault} (h : model.HasFault seen fault)
    (hother : model.HasFault seen other) : fault = other := by
  cases h <;> cases hother <;> trivial

/-- The order of the names before a declaration makes no difference. -/
theorem HasFault.congr (h : ∀ name, name ∈ seen ↔ name ∈ others)
    (hfault : model.HasFault seen fault) : model.HasFault others fault := by
  cases hfault with
  | badName hbad => exact .badName hbad
  | repeatedName hname hseen => exact .repeatedName hname ((h _).1 hseen)
  | noSources hname hnew hempty => exact .noSources hname (mt (h _).2 hnew) hempty

end ModelSource

/-- No model, no fault. -/
theorem not_faultAt_nil : ¬ FaultAt seen [] i fault := by
  simp [FaultAt]

/-- The first model is at fault when it is with the names seen before it. -/
theorem faultAt_zero : FaultAt seen (model :: models) 0 fault ↔ model.HasFault seen fault := by
  simp [FaultAt]

/-- Behind the first declaration, its name is one of those from before. -/
theorem faultAt_succ :
    FaultAt seen (model :: models) (i + 1) fault ↔ FaultAt (model.name :: seen) models i fault := by
  have hsame : ∀ name, name ∈ seen ++ ((model :: models).take (i + 1)).map (·.name)
      ↔ name ∈ model.name :: seen ++ (models.take i).map (·.name) := by
    intro name
    simp [or_left_comm]
  constructor
  · rintro ⟨later, hlater, hfault⟩
    exact ⟨later, hlater, hfault.congr hsame⟩
  · rintro ⟨later, hlater, hfault⟩
    exact ⟨later, hlater, hfault.congr fun name => (hsame name).symm⟩

/-! ## The pass over the declarations -/

/-- Validation refuses a declaration that is at fault, and goes on behind one that is not. -/
theorem validateModels_cons (seen : List String) (model : ModelSource) (models : List ModelSource) :
    (∃ fault, model.HasFault seen fault ∧ validateModels seen (model :: models) = .error fault) ∨
      (∀ fault, ¬ model.HasFault seen fault) ∧
        validateModels seen (model :: models) = validateModels (model.name :: seen) models := by
  rw [ModelSource.forall_not_hasFault_iff, validateModels]
  by_cases hname : IsModelName model.name
  · rw [isModelName_iff.2 hname]
    by_cases hseen : model.name ∈ seen
    · exact .inl ⟨_, .repeatedName hname hseen, by simp [hseen]⟩
    · by_cases hempty : model.sources = []
      · exact .inl ⟨_, .noSources hname hseen hempty, by simp [hseen, hempty]⟩
      · exact .inr ⟨⟨hname, hseen, hempty⟩, by simp [hseen, hempty]⟩
  · have hbad : isModelName model.name = false := by simpa using mt isModelName_iff.1 hname
    exact .inl ⟨_, .badName hname, by simp [hbad]⟩

/-- Validation reports the first position at fault. -/
theorem validateModels_eq_error_iff : validateModels seen models = .error fault
    ↔ ∃ i, FaultAt seen models i fault ∧ ∀ j < i, ∀ other, ¬ FaultAt seen models j other := by
  induction models generalizing seen with
  | nil => simp [validateModels, not_faultAt_nil]
  | cons model models ih =>
    rw [← Nat.or_exists_add_one]
    simp only [Nat.forall_lt_succ_left, faultAt_zero, faultAt_succ, Nat.not_lt_zero, false_imp_iff,
      implies_true, and_true]
    rcases validateModels_cons seen model models with ⟨first, hfirst, hstop⟩ | ⟨hnone, hgo⟩
    · -- No position behind this one is the first at fault.
      rw [hstop, Except.error.injEq]
      constructor
      · rintro rfl
        exact .inl hfirst
      · rintro (hfault | ⟨i, -, hnone, -⟩)
        · exact hfirst.unique hfault
        · exact absurd hfirst (hnone first)
    · rw [hgo, ih]
      simp [hnone]

/-- Validation accepts declarations with sources and with names that are right, distinct and new. -/
theorem validateModels_eq_ok_iff : validateModels seen models = .ok ()
    ↔ (∀ model ∈ models, IsModelName model.name) ∧ (models.map (·.name)).Nodup ∧
      (∀ model ∈ models, model.sources ≠ []) ∧ ∀ model ∈ models, model.name ∉ seen := by
  induction models generalizing seen with
  | nil => simp [validateModels]
  | cons model models ih =>
    simp only [List.forall_mem_cons, List.map_cons, List.nodup_cons, List.mem_map, not_exists,
      not_and]
    rcases validateModels_cons seen model models with ⟨fault, hfault, hstop⟩ | ⟨hnone, hgo⟩
    · rw [hstop]
      refine iff_of_false (by simp) ?_
      rintro ⟨⟨hname, -⟩, -, ⟨hsources, -⟩, hnew, -⟩
      exact ModelSource.forall_not_hasFault_iff.2 ⟨hname, hnew, hsources⟩ fault hfault
    · obtain ⟨hname, hnew, hsources⟩ := ModelSource.forall_not_hasFault_iff.1 hnone
      rw [hgo, ih]
      simp only [List.mem_cons, not_or]
      constructor
      · rintro ⟨hnames, hnodup, hothers, hfresh⟩
        exact ⟨⟨hname, hnames⟩, ⟨fun later hlater => (hfresh later hlater).1, hnodup⟩,
          ⟨hsources, hothers⟩, hnew, fun later hlater => (hfresh later hlater).2⟩
      · rintro ⟨⟨-, hnames⟩, ⟨hdistinct, hnodup⟩, ⟨-, hothers⟩, -, hfresh⟩
        exact ⟨hnames, hnodup, hothers,
          fun later hlater => ⟨hdistinct later hlater, hfresh later hlater⟩⟩

/-! ## Configurations -/

namespace Config

variable {config : Config}

/-- Valid are the configurations with a model, whose models have names in the right form, names of
their own, and sources. -/
theorem validate_eq_ok_iff : config.validate = .ok ()
    ↔ config.models ≠ [] ∧ (∀ model ∈ config.models, IsModelName model.name) ∧
      (config.models.map (·.name)).Nodup ∧ ∀ model ∈ config.models, model.sources ≠ [] := by
  rw [validate]
  split
  · next h => simp [List.isEmpty_iff.1 h]
  · next h => simp [validateModels_eq_ok_iff, mt List.isEmpty_iff.2 h]

/-- The fault that is reported is that of having no models, or one of the first model at fault. -/
theorem validate_eq_error_iff : config.validate = .error fault
    ↔ config.models = [] ∧ fault = .noModels ∨
      ∃ i, FaultAt [] config.models i fault ∧
        ∀ j < i, ∀ other, ¬ FaultAt [] config.models j other := by
  rw [validate]
  split
  · next h => simp [List.isEmpty_iff.1 h, not_faultAt_nil, eq_comm]
  · next h => simp [validateModels_eq_error_iff, mt List.isEmpty_iff.2 h]

/-- A text that writes a configuration is read as the configuration, or refused for its fault. -/
theorem parse_of_ofText {path text : String} (h : ofText text = .ok config) :
    parse path text = (config.validate.map fun _ => config).mapError (.configInvalid ·.describe) := by
  rw [parse, h]
  show ((config.validate.mapError _).bind fun _ => .ok config) = _
  cases config.validate <;> rfl

/-- A configuration is valid exactly when it has a root model, each root model has a name in the
form of an identifier and a source, and their names are distinct. One that is not valid is refused
for having no root model, or else for the first declaration at fault: for its name, or else for an
earlier declaration of the name, or else for its sources. So is a text that writes it. -/
theorem validate_exact (config : Config) :
    (config.validate = .ok () ↔ config.models ≠ [] ∧
        (∀ model ∈ config.models, IsModelName model.name) ∧
        (config.models.map (·.name)).Nodup ∧ ∀ model ∈ config.models, model.sources ≠ []) ∧
      (∀ fault, config.validate = .error fault ↔
        config.models = [] ∧ fault = .noModels ∨
          ∃ i, FaultAt [] config.models i fault ∧
            ∀ j < i, ∀ other, ¬ FaultAt [] config.models j other) ∧
      ∀ path text, ofText text = .ok config →
        (parse path text = .ok config ↔ config.validate = .ok ()) ∧
          ∀ error, parse path text = .error error ↔
            ∃ fault, config.validate = .error fault ∧ error = .configInvalid fault.describe := by
  refine ⟨validate_eq_ok_iff, fun fault => validate_eq_error_iff, fun path text htext => ?_⟩
  rw [parse_of_ofText htext]
  constructor
  · rw [mapError_eq_ok_iff, map_eq_ok_iff]
    exact ⟨fun ⟨(), hvalid, _⟩ => hvalid, fun hvalid => ⟨(), hvalid, rfl⟩⟩
  · intro error
    rw [mapError_eq_error_iff]
    exact exists_congr fun fault => and_congr map_eq_error_iff eq_comm

/-- The second model has two faults, and the third repeats its name: what is reported is the name of
the second. -/
theorem validate_exact_firstEdition :
    let text := "language: swift\nmodels:\n  - name: Rating\n    sources: [rating.json]\n"
      ++ "  - name: 1st\n  - name: 1st\n    sources: [first.json]\n"
    let config : Config :=
      { project := none, author := none, company := none, language := .swift, package := none
        outputDirectory := defaultOutput
        models := [⟨"Rating", ["rating.json"]⟩, ⟨"1st", []⟩, ⟨"1st", ["first.json"]⟩]
        directory := ⟨""⟩ }
    ofText text = .ok config ∧ config.validate = .error (.badName "1st") ∧
      parse fileName text = .error (.configInvalid
        "model name '1st' must start with a letter and contain only letters, digits or '_'") := by
  intro text config
  have htext : ofText text = .ok config := by decide +kernel
  obtain ⟨-, hfault, hparse⟩ := validate_exact config
  have hvalid : config.validate = .error (.badName "1st") := by
    refine (hfault _).2 (.inr ⟨1, ⟨_, rfl, .badName (mt isModelName_iff.2 (by decide))⟩, ?_⟩)
    intro j hj other
    obtain rfl : j = 0 := by omega
    rw [faultAt_zero]
    exact ModelSource.forall_not_hasFault_iff.2
      ⟨isModelName_iff.1 (by decide), by simp, by simp⟩ other
  exact ⟨htext, hvalid, ((hparse fileName text htext).2 _).2 ⟨_, hvalid, rfl⟩⟩

end Config

end PayloadModels
