import PayloadModels.Yaml.Scalar
import PayloadModels.Yaml.Token

/-!
# Cutting YAML into tokens

The lexer goes through the text from token to token (`Lexer.next`) and keeps what decides how the
text goes on: the columns of the block collections that are open, how many flow collections are
open, and the scalars that may still turn out to be keys.

A colon makes a key of what stands before it on its line. So the lexer remembers the place of each
token that a key may begin with, and puts the tokens that a key needs there when the colon comes
(`Lexer.makeKey`).
-/

namespace PayloadModels.Yaml

/-- A place at which a key may begin. -/
structure KeyPlace where
  /-- How many tokens come before it. -/
  place : Nat
  /-- Whether nothing but a key may begin there. -/
  required : Bool
  line : Nat
  column : Nat
  /-- How many bytes come before it. -/
  index : Nat
  deriving DecidableEq, Repr

/-- The lexer between two tokens. -/
structure Lexer where
  rest : List Char
  /-- How many bytes come before `rest`. -/
  index : Nat
  line : Nat
  column : Nat
  /-- The columns of the open block collections, innermost first. -/
  indents : List Nat
  /-- Whether a key may begin here. -/
  keyAllowed : Bool
  /-- The place of a possible key outside of flow collections. -/
  blockKey : Option KeyPlace
  /-- The places of possible keys in the open flow collections, innermost first. -/
  flowKeys : List (Option KeyPlace)
  tokens : Array Token
  deriving Repr

/-- A lexer's step, which may find a fault. -/
abbrev Lexing := Except Fault

namespace Lexer

/-- The lexer at the beginning of a text. -/
def start (cs : List Char) : Lexer :=
  { rest := cs, index := 0, line := 0, column := 0, indents := [], keyAllowed := true
    blockKey := none, flowKeys := [], tokens := #[] }

/-- Whether a flow collection is open. -/
def inFlow (lexer : Lexer) : Bool := !lexer.flowKeys.isEmpty

/-- The least column of what is inside the innermost open block collection. -/
def inner (lexer : Lexer) : Nat := lexer.indents.head?.elim 0 (· + 1)

/-- A fault where the lexer is. -/
def fail {α : Type} (lexer : Lexer) (problem : Problem) : Lexing α :=
  .error ⟨problem, lexer.line, lexer.column⟩

/-- What a part of the text is read as, or a fault where the lexer is. -/
def lift {α : Type} (lexer : Lexer) (result : Except Problem α) : Lexing α :=
  result.mapError fun problem => ⟨problem, lexer.line, lexer.column⟩

/-- The lexer after its first character `c`, where `rest` is left. -/
def pass (lexer : Lexer) (c : Char) (rest : List Char) : Lexer :=
  { lexer with
    rest := rest
    index := lexer.index + c.utf8Size
    line := if isBreak c then lexer.line + 1 else lexer.line
    column := if isBreak c then 0 else lexer.column + 1 }

/-- The lexer after so many characters. -/
def skip (lexer : Lexer) : Nat → Lexer
  | 0 => lexer
  | count + 1 =>
    match lexer.rest with
    | [] => lexer
    | c :: rest => (lexer.pass c rest).skip count

/-- The token of a kind that begins where the lexer is. -/
def tokenHere (lexer : Lexer) (kind : Token.Kind) : Token := ⟨kind, lexer.line, lexer.column⟩

/-- The lexer with one more token, which begins where it is. -/
def emit (lexer : Lexer) (kind : Token.Kind) : Lexer :=
  { lexer with tokens := lexer.tokens.push (lexer.tokenHere kind) }

/-! ## Keys -/

/-- The place of a possible key in the innermost collection. -/
def key? (lexer : Lexer) : Option KeyPlace :=
  match lexer.flowKeys with
  | [] => lexer.blockKey
  | key :: _ => key

/-- The lexer with the place of a possible key in the innermost collection changed. -/
def setKey (lexer : Lexer) (key : Option KeyPlace) : Lexer :=
  match lexer.flowKeys with
  | [] => { lexer with blockKey := key }
  | _ :: keys => { lexer with flowKeys := key :: keys }

/-- Whether what began at a place cannot be a key any more: it is on another line, or too far
back. -/
def isStale (lexer : Lexer) (key : Option KeyPlace) : Bool :=
  key.any fun key => key.line < lexer.line || key.index + 1024 < lexer.index

/-- Gives up a possible key, which must not have been required. -/
def giveUp (lexer : Lexer) (key : Option KeyPlace) : Lexing (Option KeyPlace) :=
  match key with
  | some key => if key.required then lexer.fail .colonMissing else .ok none
  | none => .ok none

/-- Gives up the possible key of the innermost collection. -/
def dropKey (lexer : Lexer) : Lexing Lexer := (lexer.giveUp lexer.key?).map lexer.setKey

/-- Gives up a possible key if it is stale. -/
def refresh (lexer : Lexer) (key : Option KeyPlace) : Lexing (Option KeyPlace) :=
  if lexer.isStale key then lexer.giveUp key else .ok key

/-- Gives up the possible keys that are stale. -/
def dropStaleKeys (lexer : Lexer) : Lexing Lexer := do
  let blockKey ← lexer.refresh lexer.blockKey
  let flowKeys ←
    if lexer.flowKeys.any lexer.isStale then lexer.flowKeys.mapM lexer.refresh
    else pure lexer.flowKeys
  return { lexer with blockKey := blockKey, flowKeys := flowKeys }

/-- Remembers that a key may begin here, if it may. -/
def saveKey (lexer : Lexer) : Lexing Lexer :=
  if lexer.keyAllowed then do
    let required := !lexer.inFlow && lexer.indents.head? = some lexer.column
    let lexer ← lexer.dropKey
    return lexer.setKey
      (some ⟨lexer.tokens.size, required, lexer.line, lexer.column, lexer.index⟩)
  else
    .ok lexer

/-! ## Indentation -/

/-- Opens a block collection at a column, if it is inside the innermost one and no flow collection
is open; the token of its beginning goes to a place among the tokens. -/
def openBlock (lexer : Lexer) (column place : Nat) (token : Token) : Lexer :=
  if lexer.inFlow || !(lexer.indents.head?.all (· < column)) then lexer
  else
    { lexer with
      indents := column :: lexer.indents
      tokens := lexer.tokens.insertIdxIfInBounds place token }

/-- Opens a block collection where the lexer is. -/
def openBlockHere (lexer : Lexer) (kind : Token.Kind) : Lexer :=
  lexer.openBlock lexer.column lexer.tokens.size (lexer.tokenHere kind)

/-- Closes the block collections that lie deeper than a column; all of them when there is
none. -/
def closeBlocks (lexer : Lexer) (column : Option Nat) : Lexer :=
  let deeper := lexer.indents.takeWhile fun indent => column.all (· < indent)
  { lexer with
    indents := lexer.indents.drop deeper.length
    tokens := lexer.tokens ++ (deeper.map fun _ => lexer.tokenHere .blockEnd).toArray }

/-! ## Tokens -/

/-- A token of some characters before which no key may be open. -/
def sign (lexer : Lexer) (kind : Token.Kind) (count : Nat) (keyAllowed : Bool) :
    Lexing Lexer := do
  let lexer ← lexer.dropKey
  return { (lexer.emit kind).skip count with keyAllowed := keyAllowed }

/-- The mark that begins or ends a document. -/
def documentMark (lexer : Lexer) (kind : Token.Kind) : Lexing Lexer :=
  (lexer.closeBlocks none).sign kind 3 false

/-- A line that tells how to read the document. -/
def directive (lexer : Lexer) : Lexing Lexer := do
  let line := lexer.rest.takeWhile fun c => !isBreak c
  let directive ← lexer.lift (Directive.read (line.drop 1))
  (lexer.closeBlocks none).sign (.directive directive) line.length false

/-- The sign that opens a flow collection. -/
def openFlow (lexer : Lexer) (kind : Token.Kind) : Lexing Lexer := do
  let lexer ← lexer.saveKey
  let lexer := { lexer with flowKeys := none :: lexer.flowKeys, keyAllowed := true }
  return (lexer.emit kind).skip 1

/-- The sign that closes a flow collection. -/
def closeFlow (lexer : Lexer) (kind : Token.Kind) : Lexing Lexer := do
  let lexer ← lexer.dropKey
  let lexer := { lexer with flowKeys := lexer.flowKeys.drop 1, keyAllowed := false }
  return (lexer.emit kind).skip 1

/-- The sign that begins an item of a block sequence. -/
def item (lexer : Lexer) : Lexing Lexer :=
  if lexer.inFlow then lexer.sign .item 1 true
  else if !lexer.keyAllowed then lexer.fail .itemNotAllowed
  else (lexer.openBlockHere .blockSequence).sign .item 1 true

/-- The sign that begins a key. -/
def explicitKey (lexer : Lexer) : Lexing Lexer :=
  if lexer.inFlow then lexer.sign .key 1 false
  else if !lexer.keyAllowed then lexer.fail .keyNotAllowed
  else (lexer.openBlockHere .blockMapping).sign .key 1 true

/-- The lexer with a key that begins at a place among the tokens. -/
def makeKey (lexer : Lexer) (key : KeyPlace) : Lexer :=
  let tokens := lexer.tokens.insertIdxIfInBounds key.place ⟨.key, key.line, key.column⟩
  let lexer := { lexer with tokens := tokens }
  lexer.openBlock key.column key.place ⟨.blockMapping, key.line, key.column⟩

/-- The colon before a value. -/
def value (lexer : Lexer) : Lexing Lexer :=
  match lexer.key? with
  | some key =>
    let lexer := (lexer.makeKey key).setKey none
    .ok { (lexer.emit .value).skip 1 with keyAllowed := false }
  | none =>
    if lexer.inFlow then .ok { (lexer.emit .value).skip 1 with keyAllowed := false }
    else if !lexer.keyAllowed then lexer.fail .valueNotAllowed
    else .ok { ((lexer.openBlockHere .blockMapping).emit .value).skip 1 with keyAllowed := true }

/-- The lexer after a token of so many characters that a key may begin with. -/
def keyLike (lexer : Lexer) (kind : Token.Kind) (width : Nat) : Lexing Lexer := do
  let lexer ← lexer.saveKey
  return { (lexer.emit kind).skip width with keyAllowed := false }

/-- Whether the name of an anchor may end here. -/
def endsName (cs : List Char) : Bool :=
  endsWord cs || cs.head?.any (· ∈ ['?', ':', ',', ']', '\x7d', '%', '@', '\x60'])

/-- The name of an anchor or an alias. -/
def name (lexer : Lexer) (kind : String → Token.Kind) : Lexing Lexer :=
  let name := (lexer.rest.drop 1).takeWhile isNameChar
  let rest := (lexer.rest.drop 1).dropWhile isNameChar
  if name.isEmpty || !endsName rest then lexer.fail .badAnchor
  else lexer.keyLike (kind (String.ofList name)) (name.length + 1)

/-- A tag, after which a word ends, or an item of a flow collection. -/
def tag (lexer : Lexer) : Lexing Lexer := do
  let (tag, rest) ← lexer.lift (Tag.read lexer.rest)
  if endsWord rest || lexer.inFlow && rest.head? = some ',' then
    lexer.keyLike (.tag tag) (lexer.rest.length - rest.length)
  else
    lexer.fail .badTag

/-- A block scalar. -/
def blockScalar (lexer : Lexer) (folded : Bool) : Lexing Lexer := do
  let lexer ← lexer.dropKey
  let (text, width) ← lexer.lift (readBlock folded lexer.indents.head? (lexer.rest.drop 1))
  return { (lexer.emit (.scalar text false)).skip (width + 1) with keyAllowed := true }

/-- A quoted scalar. -/
def quotedScalar (lexer : Lexer) (quote : Char) : Lexing Lexer := do
  let (text, width) ← lexer.lift (readQuoted quote (lexer.rest.drop 1))
  lexer.keyLike (.scalar text false) (width + 1)

/-- A plain scalar. A key may begin after one that ended with its line. -/
def plainScalar (lexer : Lexer) : Lexing Lexer := do
  let (folding, width) ←
    lexer.lift (readPlain lexer.inFlow lexer.inner .empty lexer.column 0 lexer.rest)
  let lexer ← lexer.keyLike (.scalar folding.text true) width
  return { lexer with keyAllowed := folding.pending.hasBreak }

/-- A character that no plain scalar begins with unless the next one says otherwise. -/
def isSign (c : Char) : Bool := c ∈ "-?:,[]\x7b\x7d#&*!|>'\"%@\x60".toList

/-- Whether a plain scalar begins with a character and what follows it. -/
def startsPlain (lexer : Lexer) (c : Char) (cs : List Char) : Bool :=
  !isSign c && !isGap c || c = '-' && !cs.head?.any isGap
    || !lexer.inFlow && (c = '?' || c = ':') && !endsWord cs

/-- How many characters gaps, comments and breaks take, `taken` of them before, and whether a key
may begin after them. A mark of the order of bytes may begin a line (`atStart`). -/
def gapWidth (inFlow atStart inComment keyAllowed : Bool) (taken : Nat) : List Char → Nat × Bool
  | [] => (taken, keyAllowed)
  | c :: cs =>
    if isBreak c then gapWidth inFlow true false (keyAllowed || !inFlow) (taken + 1) cs
    else if inComment || atStart && c = orderMark || c = ' '
        || c = '\t' && (inFlow || !keyAllowed) then
      gapWidth inFlow false inComment keyAllowed (taken + 1) cs
    else if c = '#' then gapWidth inFlow false true keyAllowed (taken + 1) cs
    else (taken, keyAllowed)

/-- The lexer at its next token, with the block collections closed that end before it. -/
def atToken (lexer : Lexer) : Lexing Lexer := do
  let (width, keyAllowed) :=
    gapWidth lexer.inFlow (lexer.column = 0) false lexer.keyAllowed 0 lexer.rest
  let lexer ← { lexer.skip width with keyAllowed := keyAllowed }.dropStaleKeys
  return if lexer.inFlow then lexer else lexer.closeBlocks (some lexer.column)

/-- The lexer after its next token, which begins with a character. -/
def token (lexer : Lexer) (c : Char) (cs : List Char) : Lexing Lexer :=
  if lexer.column = 0 && c = '%' then lexer.directive
  else if lexer.column = 0 && startsMark '-' (c :: cs) then lexer.documentMark .documentStart
  else if lexer.column = 0 && startsMark '.' (c :: cs) then lexer.documentMark .documentEnd
  else if c = '[' then lexer.openFlow .flowSequence
  else if c = '\x7b' then lexer.openFlow .flowMapping
  else if c = ']' then lexer.closeFlow .flowSequenceEnd
  else if c = '\x7d' then lexer.closeFlow .flowMappingEnd
  else if c = ',' then lexer.sign .comma 1 true
  else if c = '-' && endsWord cs then lexer.item
  else if c = '?' && (lexer.inFlow || endsWord cs) then lexer.explicitKey
  else if c = ':' && (lexer.inFlow || endsWord cs) then lexer.value
  else if c = '*' then lexer.name .alias
  else if c = '&' then lexer.name .anchor
  else if c = '!' then lexer.tag
  else if c = '|' && !lexer.inFlow then lexer.blockScalar false
  else if c = '>' && !lexer.inFlow then lexer.blockScalar true
  else if c = '\'' || c = '"' then lexer.quotedScalar c
  else if lexer.startsPlain c cs then lexer.plainScalar
  else lexer.fail .unexpectedCharacter

/-- The tokens of the whole text. Every token takes a character of it, so there is fuel enough when
there is more than the text has characters. -/
def run (lexer : Lexer) : Nat → Lexing (Array Token)
  | 0 => lexer.fail .unexpectedCharacter
  | fuel + 1 =>
    match lexer.atToken with
    | .error fault => .error fault
    | .ok lexer =>
      match lexer.rest with
      | [] => (lexer.closeBlocks none).dropKey.map (·.tokens)
      | c :: cs =>
        match lexer.token c cs with
        | .error fault => .error fault
        | .ok lexer => lexer.run fuel

end Lexer

/-- The tokens of a text. -/
def tokens (text : String) : Lexing (List Token) :=
  if !text.toList.all isAllowed then .error ⟨.controlCharacter, 0, 0⟩
  else
    let cs := unified text.toList
    ((Lexer.start cs).run (cs.length + 1)).map Array.toList

end PayloadModels.Yaml
