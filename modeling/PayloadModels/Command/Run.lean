import PayloadModels.Command.Report
import PayloadModels.Command.Shell
import PayloadModels.CommandLine.Basic
import PayloadModels.Config.Reader
import PayloadModels.Samples.Collection

/-!
# Commands

What each command does to the disk and what it prints (`Invocation.run`). A command that fails
prints nothing, but what it wrote until then stays written.

What a run writes to a log is left out, and what draws its progress is a parameter (`Reporter`):
neither changes what is printed or written.
-/

namespace PayloadModels

/-- What a command finds around it. -/
structure Surroundings where
  /-- The date that file headers show. -/
  today : Date
  /-- Whether styles are shown. -/
  colored : Bool
  deriving DecidableEq, Repr

/-- The lines that a command prints, or why it failed. -/
abbrev Printed := Except Error (List String)

/-- A project that is ready to be generated: its configuration, its models and how they are
written. -/
structure Project where
  config : Config
  models : ModelSet
  generator : Generator

namespace Project

/-- Reads the project of a configuration file, with the language and the directory of its files
where the configuration does not decide them. -/
def load (disk : Disk) (surroundings : Surroundings) (config : Option Path)
    (language : Option Language) (output : Option Path) : Except Error Project := do
  let config ← Config.load disk (config.getD ⟨Config.fileName⟩)
  let models ← ModelSet.ofConfig disk config
  return {
    config := config
    models := models
    generator :=
      { language := language.getD config.language
        imprint := config.imprint surroundings.today
        directory := output.getD config.outputPath } }

/-- The files of a project, without a sign of progress. -/
def render (disk : Disk) (project : Project) : Except Error (List GeneratedFile) :=
  (project.generator.renderModels disk .silent () project.models).2

/-- The models of files that a run would change, in order and once each. -/
def stale (files : List GeneratedFile) : List String :=
  ((files.filter (·.status.isChanged)).map (·.model)).eraseReps

end Project

namespace Run

/-- Writes the changed files of a project and removes its orphans, as far as the options want
it. -/
def generateProject (disk : Disk) (surroundings : Surroundings) (verbose : Bool)
    (options : GenerateOptions) (project : Project) (files : List GeneratedFile) :
    Disk × Printed :=
  let prune := options.prune && !options.dryRun
  let directory := project.config.directory
  let (disk, synced) := project.generator.sync disk files (!options.dryRun) prune
  (disk, synced.map fun synced =>
    Report.generated files directory options.dryRun verbose surroundings.colored
    ++ Report.orphans synced.orphans directory prune surroundings.colored)

/-- Generates the files of a project. -/
def generate (disk : Disk) (surroundings : Surroundings) (config : Option Path) (verbose : Bool)
    (options : GenerateOptions) : Disk × Printed :=
  let loaded := do
    let project ← Project.load disk surroundings config options.language options.output
    return (project, ← project.render disk)
  match loaded with
  | .error error => (disk, .error error)
  | .ok (project, files) => generateProject disk surroundings verbose options project files

/-- Fails if generating the files of a project would change any. -/
def check (disk : Disk) (surroundings : Surroundings) (config : Option Path) : Printed := do
  let project ← Project.load disk surroundings config none none
  let files ← project.render disk
  let summary := Summary.ofList (files.map (·.status))
  if 0 < summary.changed then .error (.outOfDate (Project.stale files))
  else
    return [Style.apply [.green, .bold] surroundings.colored "✓" ++ " "
      ++ toString project.models.size ++ " models up to date (" ++ summary.line ++ ")"]

/-- The lines that show files: one alone as it is, several under their names. -/
def showFiles (colored : Bool) : List (String × String) → List String
  | [(_, contents)] => [contents]
  | files =>
    let blocks := files.map fun (name, contents) =>
      [Style.apply [.bold] colored ("==> " ++ name ++ " <=="), contents]
    (blocks.intersperse [""]).flatten

/-- Prints the models of payload files. They belong to no project, so the directory that relative
paths begin at gives its name. -/
def infer (disk : Disk) (surroundings : Surroundings) (options : InferOptions) : Printed := do
  let models ← ModelSet.ofFiles disk options.model options.files
  let imprint : Imprint :=
    { project := disk.here.getLast?.getD "modelsync"
      author := none
      company := none
      package := none
      date := surroundings.today }
  let generator : Generator := ⟨options.language, imprint, ⟨"."⟩⟩
  return showFiles surroundings.colored (generator.rendered models)

/-- Lists the languages. -/
def languages (colored : Bool) : List String :=
  Language.all.map fun language =>
    let extensions := " ".intercalate (language.extensions.map ("." ++ ·))
    "  " ++ Style.apply [.cyan, .bold] colored (Text.padEnd 8 language.id) ++ " "
      ++ Text.padEnd 12 language.displayName ++ " " ++ Style.apply [.dim] colored extensions

/-- Tells the version. -/
def version : List String :=
  [programTitle, "", "Build info:", "  Rust version: 1.85", "  Profile: debug",
   "  Languages: " ++ ", ".intercalate (Language.all.map Language.id)]

end Run

/-- Runs a command: the disk after it, and what it prints. -/
def Invocation.run (invocation : Invocation) (disk : Disk) (surroundings : Surroundings) :
    Disk × Printed :=
  match invocation.command with
  | .generate options =>
    Run.generate disk surroundings invocation.config invocation.verbose options
  | .check => (disk, Run.check disk surroundings invocation.config)
  | .infer options => (disk, Run.infer disk surroundings options)
  | .languages => (disk, .ok (Run.languages surroundings.colored))
  | .version => (disk, .ok Run.version)
  | .completions shell => (disk, Shell.scriptFor shell)

/-!
## What a command looks at

A command looks at a few places of a disk only (`Invocation.scope`): the configuration, the
places where its sources begin, and the directory that files go to. A disk that agrees with
another at these places gives the same run.
-/

/-- A place on a disk. -/
structure Place where
  path : Path
  /-- Whether what lies below counts too, however deep; else only what lies directly inside. -/
  isDeep : Bool
  deriving DecidableEq, Repr

/-- Where a source begins. -/
def Source.place (project : Path) (source : String) : Place :=
  if isPattern source then ⟨project.join (split source).1, true⟩
  else ⟨project.join ⟨source⟩, false⟩

/-- The places that generating a project's files looks at. -/
def Config.places (config : Config) (output : Option Path) : List Place :=
  let sources := config.models.flatMap fun model => model.sources
  sources.map (Source.place config.directory) ++ [⟨output.getD config.outputPath, false⟩]

namespace Invocation

/-- The configuration that a command reads, if it reads one. -/
def configPath? (invocation : Invocation) : Option Path :=
  match invocation.command with
  | .generate _ | .check => some (invocation.config.getD ⟨Config.fileName⟩)
  | .infer _ | .languages | .version | .completions _ => none

/-- The places that a command looks at, given a disk that holds its configuration. -/
def scope (invocation : Invocation) (disk : Disk) : List Place :=
  match invocation.command, invocation.configPath?.map (Config.load disk) with
  | .generate options, some (.ok config) => config.places options.output
  | .check, some (.ok config) => config.places none
  | .infer options, _ => options.files.map fun path => ⟨path, false⟩
  | _, _ => []

end Invocation

end PayloadModels
