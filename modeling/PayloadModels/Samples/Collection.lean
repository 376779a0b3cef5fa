import PayloadModels.Config.Basic
import PayloadModels.Disk.Basic
import PayloadModels.Disk.Glob.Reader
import PayloadModels.Error
import PayloadModels.Json.Reader
import PayloadModels.Schema.ModelSet

/-!
# Samples of a project

From the sources in a configuration to the files that they mean, the objects in these files and
the models that the objects show.
-/

namespace PayloadModels.Payload

/-!
## Sample payloads

A payload file holds an object, or an array of objects and nothing else. Each object is one
iteration of the model that the file is a sample of.
-/

/-- Why a value is no payload. -/
inductive Fault where
  | noObjects
  /-- The first item of an array that is no object. -/
  | itemNotObject (index : Nat)
  | rootNotObject
  deriving DecidableEq, Repr

/-- The fault as messages give it. -/
def Fault.describe : Fault → String
  | noObjects => "array has no objects"
  | itemNotObject index => "element " ++ toString index ++ " is not an object"
  | rootNotObject => "root is not an object"

/-- The objects that the items of an array are, counted from `index`. -/
def itemObjects (index : Nat) : List Json → Except Fault (List Json.Members)
  | [] => .ok []
  | .obj members :: items => (itemObjects (index + 1) items).map (members :: ·)
  | _ :: _ => .error (.itemNotObject index)

/-- The objects of a payload, in order. -/
def objects : Json → Except Fault (List Json.Members)
  | .obj members => .ok [members]
  | .arr [] => .error .noObjects
  | .arr items => itemObjects 0 items
  | _ => .error .rootNotObject

/-- The objects of a payload file, in order. -/
def load (disk : Disk) (path : Path) : Except Error (List Json.Members) := do
  match disk.read? path with
  | none => .error (.fileUnreadable path.text "the file is missing or no text")
  | some text =>
    let value ← (Json.parse text).mapError fun fault =>
      .payloadUnparsable path.text fault.describe
    (objects value).mapError fun fault => .payloadInvalid path.text fault.describe

end PayloadModels.Payload

namespace PayloadModels.Source

/-!
## Sources of samples

A source is the path of one payload file or a pattern for such paths, along the directory of the
project (`Source.resolve`). The pieces of a pattern before the first that holds a sign of patterns
are a plain path; the rest is matched against the paths of the files below it.
-/

/-- Whether a text holds a sign of patterns. -/
def isPattern (text : String) : Bool := text.toList.any (· ∈ ['*', '?', '[', '\x7b'])

/-- The text with a slash for each backslash. -/
def slashed (text : String) : String :=
  String.ofList (text.toList.map fun c => if c = '\\' then '/' else c)

/-- The pieces of a pattern that are a plain path, and the rest of it. -/
def split (pattern : String) : Path × String :=
  let pieces := (⟨slashed pattern⟩ : Path).pieces
  let plain := pieces.takeWhile fun piece => !isPattern piece
  (⟨"/".intercalate plain⟩, "/".intercalate (pieces.drop plain.length))

/-- The files at and below a path whose paths from there match a pattern, in order. -/
def matching (disk : Disk) (base : Path) (glob : Glob) : List Path :=
  let names := (disk.filesBelow base).filter fun names =>
    glob.isMatch (slashed ("/".intercalate names))
  Path.sort (names.map base.below)

/-- The files that a source means, in order; there is at least one. -/
def resolve (disk : Disk) (project : Path) (source : String) : Except Error (List Path) :=
  if !isPattern source then
    let path := project.join ⟨source⟩
    if disk.isFile path then .ok [path] else .error (.sourceNotFound source)
  else
    let (plain, pattern) := split source
    match Glob.parse pattern with
    | none => .error (.patternInvalid source "malformed pattern")
    | some glob =>
      match matching disk (project.join plain) glob with
      | [] => .error (.sourceNotFound source)
      | files => .ok files

end PayloadModels.Source

namespace PayloadModels.ModelSet

/-!
## Collecting models

The models that the samples of a project show. A root model is seen in each of its files once,
whichever of its sources mean the file, in the order of their paths; the root models are taken in
the order of the configuration.
-/

/-- The set after the payloads in files were seen, as samples of a model. -/
def observeFiles (set : ModelSet) (disk : Disk) (name : String) :
    List Path → Except Error ModelSet
  | [] => .ok set
  | file :: files => do
    let objects ← Payload.load disk file
    (set.observeAll name objects).observeFiles disk name files

/-- The models that payload files show, as samples of one root model. -/
def ofFiles (disk : Disk) (name : String) (files : List Path) : Except Error ModelSet :=
  (∅ : ModelSet).observeFiles disk name files

/-- The files that sources mean, in order and once each. -/
def sourceFiles (disk : Disk) (project : Path) (sources : List String) :
    Except Error (List Path) := do
  let files ← sources.mapM (Source.resolve disk project)
  return (Path.sort files.flatten).eraseRepsBy Path.same

/-- The set after the samples of root models were seen. -/
def observeSources (set : ModelSet) (disk : Disk) (project : Path) :
    List ModelSource → Except Error ModelSet
  | [] => .ok set
  | model :: models => do
    let files ← sourceFiles disk project model.sources
    (← set.observeFiles disk model.name files).observeSources disk project models

/-- The models that the samples of a project show. -/
def ofConfig (disk : Disk) (config : Config) : Except Error ModelSet :=
  (∅ : ModelSet).observeSources disk config.directory config.models

end PayloadModels.ModelSet
