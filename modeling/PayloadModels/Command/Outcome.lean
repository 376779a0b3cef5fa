import PayloadModels.Command.Run
import PayloadModels.CommandLine.Reader

/-!
# What a user is told

The help of the program, and what a run of it leaves behind.
-/

namespace PayloadModels

/-!
## Help

What a user is told who asks for help, or whose command line asks for no command.
-/

/-- What a command does, in one line. -/
def CommandLine.Verb.summary : CommandLine.Verb → String
  | generate => "Generate model files from the configured payloads"
  | check => "Fail if generated models are out of date"
  | infer => "Print models inferred from payload files, without a configuration"
  | languages => "List supported target languages"
  | version => "Show version information"
  | completions => "Generate shell completions"

/-- What an item is for, as its line of the help says it. -/
def CommandLine.Item.summary : CommandLine.Item → String
  | config => "--config <FILE>      Configuration file (defaults to ./modelsync.yaml)"
  | verbose => "--verbose            Enable verbose output"
  | help => "--help               Print help"
  | version => "--version            Print version"
  | output => "--output <DIR>       Output directory"
  | language => "--language <LANG>    Target language"
  | dryRun => "--dry-run            Show what would change without writing files"
  | prune => "--prune              Delete generated files whose model no longer exists"
  | name => "--name <NAME>        Name of the root model"
  | shell => "--shell <SHELL>      Shell type (bash, elvish, fish, powershell, zsh)"
  | files => "<FILE>...            Payload files (JSON object or array of objects)"

/-- The line of the help for an item. -/
def CommandLine.Item.helpLine (item : CommandLine.Item) : String :=
  let letter := item.short?.elim "    " fun c => "-" ++ c.toString ++ ", "
  "  " ++ letter ++ item.summary

/-- The lines of the help. -/
def CommandLine.helpLines : List String :=
  ["Generate client model declarations from sample JSON payloads", "",
   "Usage: modelsync [OPTIONS] <COMMAND>", "", "Commands:"]
  ++ Verb.all.map (fun verb => "  " ++ Text.padEnd 13 verb.word ++ verb.summary)
  ++ ["", "Options:"]
  ++ (Item.available none).map Item.helpLine
  ++ Verb.all.flatMap fun verb =>
    let own := (Item.available (some verb)).filter (· ∉ Item.available none)
    if own.isEmpty then [] else ["", "Options of " ++ verb.word ++ ":"] ++ own.map Item.helpLine

namespace Usage

/-- What is wrong with a command line. -/
def mistake : Usage → String
  | help | version => ""
  | nothingGiven | commandMissing => "a command is required"
  | unknownCommand => "there is no such command"
  | argumentMissing => "a required argument is missing"
  | unknownArgument => "there is no such argument"
  | valueMissing => "an option lacks its value"
  | valueRefused => "an option does not take this value"
  | repeatedOption => "an option is given twice"
  | valueNotTaken => "an option takes no value"

/-- What the user is told. -/
def lines : Usage → List String
  | help | nothingGiven => CommandLine.helpLines
  | version => [programTitle]
  | usage => ["error: " ++ usage.mistake, "", "For more information, try '--help'."]

end Usage

/-!
## Outcomes

What a run of the program leaves behind beside its changes of the disk (`Outcome`): what it
printed, what it complained about, and its exit code. The code is 0 after success, 1 when a command
failed, and 2 when the command line was wrong.
-/

/-- What a run of the program leaves behind. -/
structure Outcome where
  code : Nat
  /-- The lines that were printed. -/
  output : List String
  /-- The lines about what went wrong. -/
  complaints : List String
  deriving DecidableEq, Repr

namespace Outcome

/-- The lines that tell a user of an error. -/
def complaintsOf (error : Error) : List String :=
  ("Error: " ++ error.message) :: error.help?.toList.map ("Help: " ++ ·)

/-- The outcome of a command. -/
def ofPrinted : Printed → Outcome
  | .ok lines => ⟨0, lines, []⟩
  | .error error => ⟨1, [], complaintsOf error⟩

/-- The outcome of a command line that asks for no command. -/
def ofUsage (usage : Usage) : Outcome :=
  if usage.isAsked then ⟨0, usage.lines, []⟩ else ⟨2, [], usage.lines⟩

end Outcome

end PayloadModels
