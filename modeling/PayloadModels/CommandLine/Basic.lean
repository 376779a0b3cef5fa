import PayloadModels.Config.Basic
import PayloadModels.Target.Basic

/-!
# Commands and their options

What a user can ask for (`Command`), with the settings that any command takes (`Invocation`), and
why the words of a command line are no invocation (`Usage`).
-/

namespace PayloadModels

/-- The name and the version of the program. -/
def programTitle : String := "modelsync 0.3.0"

/-- What `generate` is told. -/
structure GenerateOptions where
  /-- Where files go, when that is not left to the configuration. -/
  output : Option Path
  /-- The language of the files, when that is not left to the configuration. -/
  language : Option Language
  /-- Show what would change, and write nothing. -/
  dryRun : Bool
  /-- Remove generated files of models that are gone. -/
  prune : Bool
  deriving DecidableEq, Repr

/-- What `infer` is told. -/
structure InferOptions where
  files : List Path
  /-- The name of the root model. -/
  model : String
  language : Language
  deriving DecidableEq, Repr

/-- What a user asks for. -/
inductive Command where
  /-- Write the files of a project's models. -/
  | generate (options : GenerateOptions)
  /-- Fail if files are out of date. -/
  | check
  /-- Print the models of payload files, without a project. -/
  | infer (options : InferOptions)
  /-- List the languages. -/
  | languages
  | version
  /-- Print the completions for a shell. -/
  | completions (shell : String)
  deriving DecidableEq, Repr

/-- A command with the settings that any command takes. -/
structure Invocation where
  config : Option Path
  verbose : Bool
  command : Command
  deriving DecidableEq, Repr

/-- Why a command line asks for no command: it asks for help or the version, or it is wrong. -/
inductive Usage where
  | help
  | version
  /-- Nothing was said at all. -/
  | nothingGiven
  | commandMissing
  | unknownCommand
  | argumentMissing
  | unknownArgument
  /-- An option without its value, or an empty path. -/
  | valueMissing
  /-- A value that its option does not take. -/
  | valueRefused
  /-- An option that is given twice. -/
  | repeatedOption
  /-- A value for an option that takes none. -/
  | valueNotTaken
  deriving DecidableEq, Repr

/-- Whether a usage is no mistake. -/
def Usage.isAsked : Usage → Bool
  | help | version => true
  | _ => false

end PayloadModels
