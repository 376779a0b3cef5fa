import PayloadModels.Generation.Render
import PayloadModels.Generation.Status
import PayloadModels.Header.Imprint
import PayloadModels.Schema.Property
import PayloadModels.Target.PropertyText

/-!
# Files that are there

What a run wants to know about a file that is already there: the lines that were edited by hand
(`HandEdit.ofText`), and whether the new text differs from it in more than the dates of the
header (`hasUpdates`).
-/

namespace PayloadModels

/-- The hand edits of a file: its tagged lines that declare a property. -/
def HandEdit.ofText (target : Target) (text : String) : List HandEdit :=
  let mark := target.lineComment ++ " " ++ handEditMark
  let tagged := (Text.lines text).filter fun line => Text.contains mark line.toList
  tagged.filterMap fun line => (target.declared? line).map fun name => ⟨line, name⟩

/-- Whether two lines differ in more than a date. -/
def lineUpdated (old new : String) : Bool := old ≠ new && !(isDated old && isDated new)

/-- Whether the new text of a file differs from the old one in more than dates. -/
def hasUpdates (old new : String) : Bool :=
  let oldLines := Text.lines old
  let newLines := Text.lines new
  oldLines.length ≠ newLines.length || (oldLines.zip newLines).any fun (a, b) => lineUpdated a b

/-!
## Revising a file

A run looks at the file of a model that is there, keeps its hand edits, and compares what it has
rendered with it (`Target.revise`).
-/

/-- A model as one run is to write it. -/
structure Edition where
  model : String
  properties : List Property
  imprint : Imprint
  deriving DecidableEq, Repr

/-- What a run makes of a file: what it does to the one that is there, and the new text. -/
structure Revision where
  status : FileStatus
  contents : String
  deriving DecidableEq, Repr

/-- The revision of the file of a model, where `previous` is the text of the one that is there. -/
def Target.revise (target : Target) (previous : Option String) (edition : Edition) : Revision :=
  let edits := previous.elim [] (HandEdit.ofText target)
  let contents := target.render edition.model edition.properties edits edition.imprint
  { status := match previous with
      | none => .created
      | some old => if hasUpdates old contents then .updated else .unchanged
    contents := contents }

end PayloadModels
