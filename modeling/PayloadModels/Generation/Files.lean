import PayloadModels.Disk.Basic
import PayloadModels.Error
import PayloadModels.Generation.Previous
import PayloadModels.Schema.ModelSet

/-!
# The files of a model set

A `Generator` writes the models of a set in one language to one directory. Each model has a file
for every target of the language (`Generator.files`), which is compared with the one that is
there: hand edits are kept, and a file that differs in dates only is left alone.

A generated file of the language that no model has any more is an orphan (`Generator.orphans`).
`Generator.sync` brings the directory up to date.
-/

namespace PayloadModels

/-- A file that a run generates. -/
structure GeneratedFile where
  model : String
  path : Path
  status : FileStatus
  contents : String
  deriving DecidableEq, Repr

/-- How models are written: the language, what files say about themselves, and where they go. -/
structure Generator where
  language : Language
  imprint : Imprint
  directory : Path
  deriving DecidableEq, Repr

namespace Generator

/-- The file of a model for a target, where `previous` is the text of the one that is there. -/
def file (generator : Generator) (previous : Option String) (name : String)
    (model : ObservedModel) (target : Target) : GeneratedFile :=
  let revision :=
    target.revise previous ⟨name, model.properties target.propertyName, generator.imprint⟩
  { model := name
    path := generator.directory.join ⟨target.fileName name⟩
    status := revision.status
    contents := revision.contents }

/-- The text of the file at a path; there is none when the path leads to no file. -/
def previous (disk : Disk) (path : Path) : Except Error (Option String) :=
  if !disk.isFile path then .ok none
  else
    match disk.read? path with
    | some text => .ok (some text)
    | none => .error (.fileUnreadable path.text "the file is no text")

/-- The file of a model for a target, compared with the one on a disk. -/
def targetFile (generator : Generator) (disk : Disk) (name : String) (model : ObservedModel)
    (target : Target) : Except Error GeneratedFile := do
  let old ← previous disk (generator.directory.join ⟨target.fileName name⟩)
  return generator.file old name model target

/-- The files of a model, compared with those on a disk. -/
def modelFiles (generator : Generator) (disk : Disk) (name : String) (model : ObservedModel) :
    Except Error (List GeneratedFile) :=
  generator.language.targets.mapM (generator.targetFile disk name model)

/-- The files of all models, in order, compared with those on a disk. -/
def files (generator : Generator) (disk : Disk) (set : ModelSet) :
    Except Error (List GeneratedFile) := do
  let files ← set.models.mapM fun (name, model) => generator.modelFiles disk name model
  return files.flatten

/-- The names and texts of the files of all models, in order, whatever is there. -/
def rendered (generator : Generator) (set : ModelSet) : List (String × String) :=
  set.models.flatMap fun (name, model) =>
    generator.language.targets.map fun target =>
      (target.fileName name, (generator.file none name model target).contents)

/-- Whether a file that is there was generated. -/
def isGenerated (text : String) : Bool := Text.contains generatedMark text.toList

/-- The paths among those given whose files were generated, in order. -/
def generatedAmong (disk : Disk) : List Path → Except Error (List Path)
  | [] => .ok []
  | path :: paths =>
    match disk.read? path with
    | none => .error (.fileUnreadable path.text "the file is no text")
    | some text => do
      let rest ← generatedAmong disk paths
      return if isGenerated text then path :: rest else rest

/-- The generated files in the directory that are none of those given. -/
def orphans (generator : Generator) (disk : Disk) (files : List GeneratedFile) :
    Except Error (List Path) :=
  let there := disk.filesWithExtensions generator.directory generator.language.extensions
  generatedAmong disk (there.filter fun path => !files.any (·.path.same path))

end Generator

namespace Disk

/-- Writes the files that changed, and says how many there were. A file that cannot be written
stops this; those before it are written. -/
def writeChanged (disk : Disk) : List GeneratedFile → Disk × Except Error Nat
  | [] => (disk, .ok 0)
  | file :: files =>
    if file.status.isChanged then
      match disk.write file.path (.text file.contents) with
      | (disk, false) => (disk, .error (.fileUnwritable file.path.text "no file can be there"))
      | (disk, true) =>
        let (disk, count) := disk.writeChanged files
        (disk, count.map (· + 1))
    else
      disk.writeChanged files

/-- Removes files. One that cannot be removed stops this; those before it are gone. -/
def removeAll (disk : Disk) : List Path → Disk × Except Error Unit
  | [] => (disk, .ok ())
  | path :: paths =>
    match disk.remove? path with
    | none => (disk, .error (.fileUnwritable path.text "there is no file"))
    | some disk => disk.removeAll paths

end Disk

/-- What came of bringing a directory up to date. -/
structure Synced where
  /-- How many files were written. -/
  written : Nat
  orphans : List Path
  deriving DecidableEq, Repr

/-- Brings the directory up to date: writes the files that changed if `write` says so, looks for
orphans then, and removes them if `prune` says so. -/
def Generator.sync (generator : Generator) (disk : Disk) (files : List GeneratedFile)
    (write prune : Bool) : Disk × Except Error Synced :=
  let (disk, written) := if write then disk.writeChanged files else (disk, .ok 0)
  match written, generator.orphans disk files with
  | .error error, _ | .ok _, .error error => (disk, .error error)
  | .ok written, .ok orphans =>
    let (disk, pruned) := if prune then disk.removeAll orphans else (disk, .ok ())
    (disk, pruned.map fun () => ⟨written, orphans⟩)

end PayloadModels
