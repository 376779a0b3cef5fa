import PayloadModels.Config.Basic
import PayloadModels.Disk.Basic
import PayloadModels.Error
import PayloadModels.Yaml.Node

/-!
# Reading configurations

A configuration is a YAML mapping (`Config.ofDocument`). Members that it does not know are passed
over; those that it knows may not be repeated. `Config.load` reads and validates the configuration
in a file, whose directory becomes that of the project.
-/

namespace PayloadModels.Config

open Yaml (Node Document)

/-- Why a document is no configuration. -/
inductive Mismatch where
  | yaml (fault : Yaml.Fault)
  /-- A value of another kind than the field takes. -/
  | wrongKind (field : String)
  | missing (field : String)
  | repeated (field : String)
  | unknownLanguage (name : String)
  /-- Aliases that were followed too often. -/
  | aliasLimit
  deriving DecidableEq, Repr

/-- The mismatch as messages give it. -/
def Mismatch.describe : Mismatch → String
  | yaml fault => fault.describe
  | wrongKind field => field ++ ": invalid type"
  | missing field => "missing field \x60" ++ field ++ "\x60"
  | repeated field => "duplicate field \x60" ++ field ++ "\x60"
  | unknownLanguage name => (Error.unknownLanguage name).message
  | aliasLimit => "repetition limit exceeded"

/-- Decoding looks into a document for what aliases stand for, and counts how often it did. -/
abbrev Decoding := ReaderT Document (StateT Nat (Except Mismatch))

/-- The node itself, not an alias for it. Aliases are followed a hundred times at most for each
beginning or end of a node in the document. -/
def follow (field : String) : Node → Decoding Node
  | .alias anchor => do
    let document ← read
    let followed := (← get) + 1
    set followed
    if 100 * document.size < followed then throw .aliasLimit
    match document.node? anchor with
    | some node => return node
    | none => throw (.wrongKind field)
  | node => return node

/-- The text of a scalar. -/
def textOf (field : String) (node : Node) : Decoding String := do
  match ← follow field node with
  | .scalar text _ _ => return text
  | _ => throw (.wrongKind field)

/-- The words that write no value. -/
def nullWords : List String := ["~", "null", "Null", "NULL"]

/-- The text of a scalar, if it has a value. A plain scalar without a tag has none if it is empty or
a null word. Under the tag of what has no value a plain scalar must be a null word. -/
def optionalTextOf (field : String) (node : Node) : Decoding (Option String) := do
  match ← follow field node with
  | .scalar text false _ => return some text
  | .scalar text true none => return if text ∈ "" :: nullWords then none else some text
  | .scalar text true (some tag) =>
    if tag ≠ Yaml.nullTag then return some text
    else if text ∈ nullWords then return none
    else throw (.wrongKind field)
  | _ => throw (.wrongKind field)

/-- The items of a sequence. A plain scalar that is empty has none. -/
def itemsOf (field : String) (node : Node) : Decoding (List Node) := do
  match ← follow field node with
  | .sequence items => return items
  | .scalar "" true _ => return []
  | _ => throw (.wrongKind field)

/-- The members of a mapping under the texts of their keys. -/
def membersOf (field : String) (node : Node) : Decoding (List (String × Node)) := do
  match ← follow field node with
  | .mapping members => members.mapM fun (key, value) => return (← textOf field key, value)
  | _ => throw (.wrongKind field)

/-- The member of a field, which may not be repeated. -/
def member? (members : List (String × Node)) (field : String) : Decoding (Option Node) :=
  match members.filter (·.1 = field) with
  | [] => return none
  | [(_, node)] => return some node
  | _ => throw (.repeated field)

/-- The member of a field, which must be there. -/
def member (members : List (String × Node)) (field : String) : Decoding Node := do
  match ← member? members field with
  | some node => return node
  | none => throw (.missing field)

/-- The text of a field, if it is there and has a value. -/
def optionalText (members : List (String × Node)) (field : String) :
    Decoding (Option String) := do
  match ← member? members field with
  | some node => optionalTextOf field node
  | none => return none

/-- The items of a field, none if it is not there. -/
def items (members : List (String × Node)) (field : String) : Decoding (List Node) := do
  match ← member? members field with
  | some node => itemsOf field node
  | none => return []

/-- The language of a name. -/
def languageOf (name : String) : Decoding Language :=
  match Language.ofName? name with
  | some language => return language
  | none => throw (.unknownLanguage name)

/-- The root model of a node. -/
def modelOf (node : Node) : Decoding ModelSource := do
  let members ← membersOf "models" node
  let name ← textOf "name" (← member members "name")
  let sources ← (← items members "sources").mapM (textOf "sources")
  return ⟨name, sources⟩

/-- The configuration of a node, for a project whose directory is not known yet. -/
def ofNode (node : Node) : Decoding Config := do
  let members ← membersOf "configuration" node
  let output ← match ← member? members "output_directory" with
    | some node => pure ⟨← textOf "output_directory" node⟩
    | none => pure defaultOutput
  return {
    project := ← optionalText members "project"
    author := ← optionalText members "author"
    company := ← optionalText members "company"
    language := ← languageOf (← textOf "language" (← member members "language"))
    package := ← optionalText members "package"
    outputDirectory := output
    models := ← (← items members "models").mapM modelOf
    directory := ⟨""⟩ }

/-- The configuration of a document. -/
def ofDocument (document : Document) : Except Mismatch Config := do
  return (← ((ofNode document.root).run document).run 0).1

/-- The configuration that a text writes, without a look at its models. -/
def ofText (text : String) : Except Mismatch Config := do
  ofDocument (← (Document.ofText text).mapError .yaml)

/-- The valid configuration that a text writes. `path` is where an error says the text is. -/
def parse (path text : String) : Except Error Config := do
  let config ← (ofText text).mapError fun mismatch => .configUnparsable path mismatch.describe
  config.validate.mapError fun fault => .configInvalid fault.describe
  return config

/-- The valid configuration in a file. -/
def load (disk : Disk) (path : Path) : Except Error Config := do
  if !disk.isFile path then .error (.configNotFound path.text)
  else
    match disk.read? path, disk.absolute? path with
    | some text, some absolute =>
      let config ← parse path.text text
      return { config with directory := absolute.parent?.getD ⟨""⟩ }
    | _, _ => .error (.configUnreadable path.text "the file is no text")

end PayloadModels.Config
