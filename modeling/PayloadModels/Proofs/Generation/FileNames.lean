import Mathlib.Data.List.Basic
import Mathlib.Data.List.Nodup
import PayloadModels.Proofs.Disk.Paths
import PayloadModels.Proofs.Naming.Characters
import PayloadModels.Target.Declaration

/-!
# The names of files

The file of a model is named by a stem and the extension of its target (`Target.fileName_eq`), and a
file name tells both (`Target.fileName_inj`). In most languages the stem is the name of the model;
in Rust it is the name in snake case, which two models may share. So files of different models have
different names exactly when the stems are different (`Language.nodup_fileNames_iff`).
-/

namespace PayloadModels

open Naming

namespace Naming

/-- A name has no slash. -/
theorem not_isNameChar_slash : ¬ IsNameChar '/' := by decide

/-- A name has no dot. -/
theorem not_isNameChar_dot : ¬ IsNameChar '.' := by decide

end Naming

namespace Target

variable {target other : Target} {model name : String}

/-- What the name of a model's file begins with. -/
def stem : Target → String → String
  | rust => Naming.snake
  | swift | kotlin | objcSource | objcHeader => id

/-- A file name is a stem and an extension. -/
theorem fileName_eq (target : Target) (model : String) :
    target.fileName model = target.stem model ++ "." ++ target.extension := by
  cases target with
  | rust =>
    show Naming.snake model ++ ".rs" = Naming.snake model ++ "." ++ "rs"
    rw [String.append_assoc]
    rfl
  | _ => rfl

/-- The stem that a name gets is a name. -/
theorem isNameText_stem (target : Target) (h : IsNameText model) :
    IsNameText (target.stem model) := by
  cases target with
  | rust => exact isNameText_snake model
  | _ => exact h

/-- An extension has neither a dot nor a slash. -/
theorem not_mem_extension (target : Target) :
    '.' ∉ target.extension.toList ∧ '/' ∉ target.extension.toList := by
  cases target <;> decide

/-- The characters of a file name are those of its stem, a dot and those of its extension. -/
theorem toList_fileName (target : Target) (model : String) : (target.fileName model).toList
    = (target.stem model).toList ++ '.' :: target.extension.toList := by
  simp [fileName_eq]

/-- A stem has no slash, unless the model's name has one and is taken as it is. -/
theorem not_mem_stem (target : Target) (h : target = .rust ∨ '/' ∉ model.toList) :
    '/' ∉ (target.stem model).toList := by
  cases target with
  | rust => exact fun hmem => not_isNameChar_slash (isNameText_snake model _ hmem)
  | _ => exact h.resolve_left (by decide)

/-- A stem is not empty, unless the model's name is and is taken as it is. -/
theorem stem_ne_empty (target : Target) (h : target = .rust ∨ model ≠ "") :
    target.stem model ≠ "" := by
  cases target with
  | rust => exact identifier_ne_empty _
  | _ => exact h.resolve_left (by decide)

/-- The file of a model is a plain name in its directory, unless there is a slash in what it begins
with. -/
theorem isPlainName_fileName_of_not_mem (target : Target)
    (h : '/' ∉ (target.stem model).toList) : Path.IsPlainName (target.fileName model) := by
  refine ⟨?_, Path.ofPiece?_eq_name ?_⟩
  · simp [toList_fileName, h, target.not_mem_extension.2]
  · -- The name ends with a letter, unlike the pieces that are no names.
    have hlast : (target.fileName model).toList.getLast? = target.extension.toList.getLast? := by
      cases target <;> simp [toList_fileName, Target.extension]
    intro hmem
    simp only [List.mem_cons, List.not_mem_nil, or_false] at hmem
    rcases hmem with hmem | hmem | hmem
    all_goals
      rw [hmem] at hlast
      revert hlast
      cases target <;> decide

/-- The file name of a model is a name that a path can end in. -/
theorem isPlainName_fileName (target : Target) (h : IsNameText model) :
    Path.IsPlainName (target.fileName model) :=
  target.isPlainName_fileName_of_not_mem fun hmem =>
    not_isNameChar_slash (target.isNameText_stem h _ hmem)

/-- A file has the extension of its target, unless nothing stands before it. -/
theorem extensionOf?_fileName (h : target.stem model ≠ "") :
    Path.extensionOf? (target.fileName model) = some target.extension := by
  have hsplit : (target.fileName model).toList.splitOn '.'
      = (target.stem model).toList.splitOn '.' ++ [target.extension.toList] := by
    rw [toList_fileName, List.splitOn_append_cons_self,
      List.splitOn_eq_singleton target.not_mem_extension.1]
  have hfront : ((target.stem model).toList.splitOn '.').reverse ≠ [] := by simp
  have hempty : ((target.stem model).toList.splitOn '.').reverse ≠ [[]] := by
    intro hnil
    have hjoin : ['.'].intercalate ((target.stem model).toList.splitOn '.')
        = (target.stem model).toList := List.intercalate_splitOn '.'
    rw [List.reverse_eq_iff.1 hnil] at hjoin
    exact h (String.toList_inj.1 hjoin.symm)
  rw [Path.extensionOf?, hsplit, List.reverse_append]
  simp [hfront, hempty]

/-- The name of a file tells its stem and its extension. -/
theorem fileName_inj (h : IsNameText model) :
    target.fileName model = other.fileName name
      ↔ target.stem model = other.stem name ∧ target.extension = other.extension := by
  have hstem : '.' ∉ (target.stem model).toList := fun hmem =>
    not_isNameChar_dot (target.isNameText_stem h _ hmem)
  have hsplit : (target.stem model).toList ++ '.' :: target.extension.toList
      = (other.stem name).toList ++ '.' :: other.extension.toList ↔ _ :=
    List.append_cons_inj_of_notMem hstem target.not_mem_extension.1
  rw [String.toList_inj, String.toList_inj, and_iff_right rfl] at hsplit
  rw [← hsplit, fileName_eq, fileName_eq, ← String.toList_inj]
  simp

end Target

namespace Language

/-- The targets of a language have the same stems. -/
theorem stem_of_mem_targets {language : Language} {target : Target}
    (h : target ∈ language.targets) : target.stem = language.mainTarget.stem := by
  cases language with
  | objectiveC =>
    rcases List.mem_cons.1 h with rfl | h
    · rfl
    · rw [List.mem_singleton.1 h]
      rfl
  | _ => rw [List.mem_singleton.1 h]

/-- Rust has one target. -/
theorem eq_rust_of_mem_targets {language : Language} {target : Target}
    (h : target ∈ language.targets) (hlanguage : language = .rust) : target = .rust := by
  subst hlanguage
  exact List.mem_singleton.1 h

/-- The files of a language have different extensions. -/
theorem nodup_extensions (language : Language) : language.extensions.Nodup := by
  cases language <;> decide

/-- The names of the files of models, in order. -/
def fileNames (language : Language) (names : List String) : List String :=
  names.flatMap fun name => language.targets.map (·.fileName name)

/-- Files of a language have different names when their stems are different. -/
theorem nodup_fileNames_iff (language : Language) {names : List String}
    (h : ∀ name ∈ names, IsNameText name) :
    (language.fileNames names).Nodup ↔ (names.map language.mainTarget.stem).Nodup := by
  have htargets : ∀ name ∈ names, (language.targets.map (·.fileName name)).Nodup := by
    intro name hname
    have hextensions := language.nodup_extensions
    rw [extensions, List.Nodup, List.pairwise_map] at hextensions
    rw [List.Nodup, List.pairwise_map]
    refine hextensions.imp fun {target other} hne heq => hne ?_
    exact ((Target.fileName_inj (h name hname)).1 heq).2
  rw [fileNames, List.nodup_flatMap, and_iff_right htargets, List.Nodup, List.pairwise_map]
  refine List.Pairwise.iff_of_mem fun {name other} hname _ => ?_
  constructor
  · -- The files for the main target already tell the models apart.
    intro hdisjoint heq
    have hmain : language.mainTarget ∈ language.targets := List.mem_cons_self
    have hfile : language.mainTarget.fileName name = language.mainTarget.fileName other :=
      (Target.fileName_inj (h name hname)).2 ⟨heq, rfl⟩
    have hother : language.mainTarget.fileName name ∈ language.targets.map (·.fileName other) := by
      rw [hfile]
      exact List.mem_map_of_mem hmain
    exact hdisjoint (List.mem_map_of_mem hmain) hother
  · intro hne file hfile hother
    obtain ⟨target, htarget, rfl⟩ := List.mem_map.1 hfile
    obtain ⟨target', htarget', heq⟩ := List.mem_map.1 hother
    have hstem := ((Target.fileName_inj (h name hname)).1 heq.symm).1
    rw [stem_of_mem_targets htarget, stem_of_mem_targets htarget'] at hstem
    exact hne hstem

/-- Only in Rust can files of different models have one name: when the names of the models are one
in snake case. -/
theorem nodup_stems_iff (language : Language) {names : List String} (h : names.Nodup) :
    (names.map language.mainTarget.stem).Nodup
      ↔ (language = .rust → (names.map Naming.snake).Nodup) := by
  cases language with
  | rust => simp [mainTarget, Target.stem]
  | _ => simpa [mainTarget, Target.stem] using h

end Language

end PayloadModels
