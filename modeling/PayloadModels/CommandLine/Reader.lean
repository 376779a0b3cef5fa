import PayloadModels.CommandLine.Basic

/-!
# Reading command lines

The words of a command line are read from left to right (`Level.read`): first at the top, then,
after the name of a command, as arguments of that command. An option may be written long or short,
its value in the same word or in the next, and short options without values may share a word.

The value of an option is looked at when the next option begins or the words end
(`Level.settle`), so of two mistakes the one that is looked at first is reported.
-/

namespace PayloadModels.CommandLine

/-- The names of commands. -/
inductive Verb where
  | generate
  | check
  | infer
  | languages
  | version
  | completions
  deriving DecidableEq, Repr

namespace Verb

/-- Every command. -/
def all : List Verb := [generate, check, infer, languages, version, completions]

/-- The word for a command. -/
def word : Verb → String
  | generate => "generate"
  | check => "check"
  | infer => "infer"
  | languages => "languages"
  | version => "version"
  | completions => "completions"

/-- The command of a word. -/
def ofWord? (word : String) : Option Verb := all.find? (·.word = word)

end Verb

/-- What can be given on a command line. -/
inductive Item where
  | help
  | version
  | config
  | verbose
  | output
  | language
  | dryRun
  | prune
  | name
  | shell
  /-- The words that are no options and no values of options. -/
  | files
  deriving DecidableEq, Repr

namespace Item

/-- The long name of an option. -/
def long? : Item → Option String
  | help => some "help"
  | version => some "version"
  | config => some "config"
  | verbose => some "verbose"
  | output => some "output"
  | language => some "language"
  | dryRun => some "dry-run"
  | prune => some "prune"
  | name => some "name"
  | shell => some "shell"
  | files => none

/-- The letter of an option. -/
def short? : Item → Option Char
  | help => some 'h'
  | version => some 'V'
  | config => some 'c'
  | verbose => some 'v'
  | output => some 'o'
  | language => some 'l'
  | name => some 'n'
  | dryRun | prune | shell | files => none

/-- Whether the item has a value. -/
def takesValue : Item → Bool
  | config | output | language | name | shell | files => true
  | help | version | verbose | dryRun | prune => false

/-- Refuses a value that the item does not take. -/
def check (item : Item) (value : String) : Except Usage Unit :=
  match item with
  | config | output | files => if value.isEmpty then .error .valueMissing else .ok ()
  | language => if (Language.ofName? value).isNone then .error .valueRefused else .ok ()
  | name => if isModelName value then .ok () else .error .valueRefused
  | help | version | verbose | dryRun | prune | shell => .ok ()

/-- The items that can be given after a command, or before it. -/
def available : Option Verb → List Item
  | none => [config, verbose, help, version]
  | some verb =>
    [config, verbose, help] ++ match verb with
      | .generate => [output, language, dryRun, prune]
      | .infer => [files, name, language]
      | .completions => [shell]
      | .check | .languages | .version => []

/-- The items that must be given after a command. -/
def required : Verb → List Item
  | .infer => [files, name]
  | .completions => [shell]
  | .generate | .check | .languages | .version => []

end Item

/-- The words at the top, or after a command, while they are read. -/
structure Level where
  verb : Option Verb
  /-- The items that have been looked at, with their values. -/
  given : List (Item × List String)
  /-- The item that is being given, and its values so far. -/
  pending : Option (Item × List String)
  deriving DecidableEq, Repr

namespace Level

/-- The level at its beginning. -/
def start (verb : Option Verb) : Level := ⟨verb, [], none⟩

/-- Whether an item has been looked at. -/
def has (level : Level) (item : Item) : Bool := level.given.any (·.1 = item)

/-- Looks at an item with its values. -/
def record (level : Level) (item : Item) (values : List String) : Except Usage Level := do
  if item.takesValue && values.isEmpty then .error .valueMissing
  else if item = .help then .error .help
  else if item = .version then .error .version
  else if item ≠ .files && level.has item then .error .repeatedOption
  else
    values.forM item.check
    return { level with given := level.given ++ [(item, values)] }

/-- Looks at the item that is being given. -/
def settle (level : Level) : Except Usage Level :=
  match level.pending with
  | none => .ok level
  | some (item, values) => { level with pending := none }.record item values

/-- Gives an item with its values at once. -/
def give (level : Level) (item : Item) (values : List String) : Except Usage Level := do
  (← level.settle).record item values

/-- Begins to give an item whose values are the next words. -/
def begin (level : Level) (item : Item) : Except Usage Level := do
  return { ← level.settle with pending := some (item, []) }

/-- Whether the next word is the value of an option. -/
def isWaiting (level : Level) : Bool :=
  level.pending.any fun (item, values) => item ≠ .files && values.isEmpty

/-- Gives a word to the item that is being given. -/
def take (level : Level) (word : String) : Level :=
  { level with pending := level.pending.map fun (item, values) => (item, values ++ [word]) }

/-- Reads a long option, with its value if the word holds one. -/
def readLong (level : Level) (name : String) (value : Option String) : Except Usage Level :=
  match (Item.available level.verb).find? (·.long? = some name) with
  | none => .error .unknownArgument
  | some item =>
    match item.takesValue, value with
    | true, some value => level.give item [value]
    | true, none => level.begin item
    | false, some _ => .error .valueNotTaken
    | false, none => level.give item []

/-- Reads short options that share a word; the first that has a value takes what is left of the
word, or the next word. -/
def readShort (level : Level) : List Char → Except Usage Level
  | [] => .ok level
  | c :: cs =>
    match (Item.available level.verb).find? (·.short? = some c) with
    | none => .error .unknownArgument
    | some item =>
      if item.takesValue then
        match cs with
        | [] => level.begin item
        | '=' :: value => level.give item [String.ofList value]
        | value => level.give item [String.ofList value]
      else do
        (← level.give item []).readShort cs

/-- Reads a word that is no option. `literal` says whether a `--` stands before it. -/
def readWord (level : Level) (literal : Bool) (word : String) : Except Usage Level := do
  if .files ∈ Item.available level.verb then
    let level ← if level.pending.any (·.1 = .files) then pure level else level.begin .files
    return level.take word
  else if level.verb.isSome then .error .unknownArgument
  else if literal && (word = "help" || (Verb.ofWord? word).isSome) then .error .unknownArgument
  else .error .unknownCommand

/-- Reads the words after `help`, which ask about a command. -/
def readHelp : List String → Usage
  | [] => .help
  | [word] => if word = "help" || (Verb.ofWord? word).isSome then .help else .unknownCommand
  | _ => .unknownCommand

/-- Reads a word of a level: an option, the value of one, or neither. -/
def readOne (level : Level) (word : String) : Except Usage Level :=
  match word.toList with
  | '-' :: '-' :: name =>
    let value := name.dropWhile (· ≠ '=')
    level.readLong (String.ofList (name.takeWhile (· ≠ '=')))
      (if value.isEmpty then none else some (String.ofList (value.drop 1)))
  | '-' :: c :: cs => level.readShort (c :: cs)
  | _ => if level.isWaiting then .ok (level.take word) else level.readWord false word

/-- Reads the words of a level, and finds the command among them with the words after it. -/
def read (level : Level) (literal : Bool) :
    List String → Except Usage (Level × Option (Verb × List String))
  | [] => .ok (level, none)
  | word :: words => do
    if literal then (← level.readWord true word).read true words
    else if level.verb.isNone && !level.isWaiting && word = "help" then .error (readHelp words)
    else
      match if level.verb.isNone && !level.isWaiting then Verb.ofWord? word else none with
      | some verb => return (level, some (verb, words))
      | none =>
        if word = "--" then level.read true words
        else (← level.readOne word).read false words

/-- Ends a level: what is being given is looked at, and then the configuration that the
environment gives, if the level names none. -/
def finish (level : Level) (environment : Option String) : Except Usage Level := do
  let level ← level.settle
  if let some config := environment then
    if !level.has .config then Item.check .config config
  return level

/-- The values of an item. -/
def values (level : Level) (item : Item) : List String :=
  (level.given.filter (·.1 = item)).flatMap (·.2)

/-- The value of an item, if it is given. -/
def value? (level : Level) (item : Item) : Option String := (level.values item).head?

/-- The command that a level asks for. -/
def command (level : Level) : Verb → Command
  | .generate =>
    .generate
      { output := (level.value? .output).map Path.mk
        language := (level.value? .language).bind Language.ofName?
        dryRun := level.has .dryRun
        prune := level.has .prune }
  | .check => .check
  | .infer =>
    .infer
      { files := (level.values .files).map Path.mk
        model := (level.value? .name).getD ""
        language := ((level.value? .language).bind Language.ofName?).getD .swift }
  | .languages => .languages
  | .version => .version
  | .completions => .completions ((level.value? .shell).getD "")

end Level

/-- Reads a whole command line, without the name of the program. `environment` is the
configuration that the environment gives, which counts where the command line names none. A
configuration that is named after the command counts before one that is named at the top. -/
def parse (environment : Option String) (words : List String) : Except Usage Invocation := do
  let (top, command) ← (Level.start none).read false words
  match command with
  | none =>
    let top ← top.finish environment
    if top.given.isEmpty && environment.isNone then .error .nothingGiven
    else .error .commandMissing
  | some (verb, words) =>
    let (level, _) ← (Level.start (some verb)).read false words
    let level ← level.finish environment
    if !(Item.required verb).all level.has then .error .argumentMissing
    else
      let top ← top.finish environment
      let config := level.value? .config <|> top.value? .config <|> environment
      return {
        config := config.map Path.mk
        verbose := level.has .verbose || top.has .verbose
        command := level.command verb }

end PayloadModels.CommandLine
