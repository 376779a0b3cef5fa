import PayloadModels.Disk.Path
import PayloadModels.Header.Imprint
import PayloadModels.Json.Basic

/-!
# Configurations

A project's configuration names the language of the models, where their files go, and which sample
payloads each root model is seen in. Relative paths in it begin at the project's directory.
-/

namespace PayloadModels

/-- A root model and the payloads that show it. -/
structure ModelSource where
  name : String
  /-- Paths of payload files, and patterns for such paths. -/
  sources : List String
  deriving DecidableEq, Repr

/-- The configuration of a project. -/
structure Config where
  project : Option String
  author : Option String
  company : Option String
  language : Language
  package : Option String
  outputDirectory : Path
  models : List ModelSource
  /-- The project's directory, which the configuration itself does not name. -/
  directory : Path
  deriving DecidableEq, Repr

namespace Config

/-- The name of configuration files. -/
def fileName : String := "modelsync.yaml"

/-- Where files go when the configuration does not say it. -/
def defaultOutput : Path := ⟨"Models"⟩

/-- A path of the configuration, along the project's directory. -/
def resolve (config : Config) (path : Path) : Path := config.directory.join path

/-- Where files go. -/
def outputPath (config : Config) : Path := config.resolve config.outputDirectory

/-- The name of a project that has none is that of its directory. -/
def projectName (config : Config) : String :=
  config.project.getD (config.directory.fileName?.getD "modelsync")

/-- What the files of the project say about themselves. -/
def imprint (config : Config) (date : Date) : Imprint :=
  { project := config.projectName
    author := config.author
    company := config.company
    package := config.package
    date := date }

/-- A root model as JSON. -/
def modelJson (model : ModelSource) : Json :=
  .obj [("name", .str model.name), ("sources", .arr (model.sources.map .str))]

/-- The configuration as JSON, without the texts that it lacks. -/
def toJson (config : Config) : Json :=
  let text := fun (key : String) (value : Option String) =>
    value.toList.map fun s => (key, Json.str s)
  .obj <|
    text "project" config.project ++ text "author" config.author ++ text "company" config.company
    ++ [("language", .str config.language.id)]
    ++ text "package" config.package
    ++ [("output_directory", .str config.outputDirectory.text),
        ("models", .arr (config.models.map modelJson))]

end Config

/-!
## Valid configurations

A configuration has a root model, and each root model has a name in the form of an identifier, a
name of its own, and a source. `Config.validate` reports the first model that is at fault, and of
its faults the first in this order.
-/

/-- Why the models of a configuration are refused. -/
inductive ConfigFault where
  | noModels
  | badName (name : String)
  | repeatedName (name : String)
  | noSources (name : String)
  deriving DecidableEq, Repr

/-- The fault as messages give it. -/
def ConfigFault.describe : ConfigFault → String
  | noModels => "at least one model is required"
  | badName name =>
    "model name '" ++ name
      ++ "' must start with a letter and contain only letters, digits or '_'"
  | repeatedName name => "model '" ++ name ++ "' is declared more than once"
  | noSources name => "model '" ++ name ++ "' has no sources"

/-- Whether a name can be that of a root model: an ASCII letter, then ASCII letters, digits and
underscores. -/
def isModelName (name : String) : Bool :=
  match name.toList with
  | [] => false
  | c :: cs => c.isAlpha && cs.all fun c => c.isAlphanum || c = '_'

/-- Refuses the first model that is at fault, where `seen` are the names of those before. -/
def validateModels (seen : List String) : List ModelSource → Except ConfigFault Unit
  | [] => .ok ()
  | model :: models =>
    if !isModelName model.name then .error (.badName model.name)
    else if model.name ∈ seen then .error (.repeatedName model.name)
    else if model.sources.isEmpty then .error (.noSources model.name)
    else validateModels (model.name :: seen) models

/-- Refuses a configuration whose models are at fault. -/
def Config.validate (config : Config) : Except ConfigFault Unit :=
  if config.models.isEmpty then .error .noModels else validateModels [] config.models

end PayloadModels
