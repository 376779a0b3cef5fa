import PayloadModels.Yaml.Lexer

/-!
# YAML nodes

What a document holds: a scalar, a sequence of nodes, a mapping from nodes to nodes, or an alias for
a node that has an anchor. Aliases are kept as they are written, since a node may hold an alias for
itself; `Document.node?` tells what one stands for.
-/

namespace PayloadModels.Yaml

/-- A node of a document. -/
inductive Node where
  /-- A text, which is plain when it stands without quotes, and its tag in full. -/
  | scalar (text : String) (plain : Bool) (tag : Option String)
  | sequence (items : List Node)
  | mapping (members : List (Node × Node))
  /-- Stands for the node with an anchor, of which the number is kept. -/
  | alias (anchor : Nat)
  deriving Repr, Inhabited

/-- The node of a place where nothing is written. -/
def Node.empty : Node := scalar "" true none

/-- A node that has an anchor. -/
structure Anchored where
  anchor : Nat
  /-- How much of the document comes before the node. -/
  place : Nat
  node : Node

/-- A document: its node, and the nodes in it that have anchors, the last place first. -/
structure Document where
  root : Node
  anchored : List Anchored
  /-- The number of beginnings and ends of nodes in it; a scalar or an alias is one. -/
  size : Nat

/-- The node that an alias stands for. It is the last of those whose anchors have a number. -/
def Document.node? (document : Document) (anchor : Nat) : Option Node :=
  (document.anchored.find? (·.anchor = anchor)).map (·.node)

/-!
## Reading YAML documents

The nodes that the tokens of a text make up. A node may have an anchor, whose name is given a number
when the node begins: the number of names there were before it. So a name that is given again may
share its number with the next new one, and an alias for either stands for the last node of that
number. `Document.ofText` reads the one document that a text may hold.
-/

namespace Node

/-- What reading a document keeps. -/
structure Input where
  /-- The tokens that are left. -/
  tokens : List Token
  /-- What the handles of tags stand for. -/
  handles : List (String × String)
  /-- The names of anchors with their numbers. -/
  anchors : List (String × Nat)
  anchored : List Anchored
  /-- How many beginnings and ends of nodes have been read. -/
  size : Nat

/-- Reading takes tokens from the input, or finds a fault. -/
abbrev Reading := StateT Input (Except Fault)

/-- A fault at the next token. -/
def fail {α : Type} (problem : Problem) : Reading α := do
  match (← get).tokens with
  | [] => throw ⟨problem, 0, 0⟩
  | token :: _ => throw ⟨problem, token.line, token.column⟩

/-- The kind of the next token. -/
def peek : Reading (Option Token.Kind) := return (← get).tokens.head?.map (·.kind)

/-- Goes on to the token after the next. -/
def advance : Reading Unit := modify fun input => { input with tokens := input.tokens.drop 1 }

/-- Counts the beginning or the end of a node. -/
def count : Reading Unit := modify fun input => { input with size := input.size + 1 }

/-- Gives the name of an anchor its number. -/
def number (name : String) : Reading Nat :=
  modifyGet fun input =>
    let anchor := input.anchors.length
    (anchor, { input with anchors := (name, anchor) :: input.anchors.filter (·.1 ≠ name) })

/-- Keeps a node that has an anchor and begins at a place. -/
def keep (anchor place : Nat) (node : Node) : Reading Unit :=
  modify fun input => { input with anchored := ⟨anchor, place, node⟩ :: input.anchored }

/-- Reads an anchor, if one is next. -/
def readAnchor : Reading (Option String) := do
  match ← peek with
  | some (.anchor name) => advance; return some name
  | _ => return none

/-- Reads a tag, if one is next. -/
def readTag : Reading (Option Tag) := do
  match ← peek with
  | some (.tag tag) => advance; return some tag
  | _ => return none

/-- The tag in full. -/
def fullTag (tag : Tag) : Reading String := do
  match tag.full? (← get).handles with
  | some full => return full
  | none => fail .unknownHandle

/-- What may stand before a node. -/
structure Properties where
  anchor : Option Nat
  /-- The tag in full. -/
  tag : Option String

/-- Whether there is an anchor or a tag. -/
def Properties.any (properties : Properties) : Bool :=
  properties.anchor.isSome || properties.tag.isSome

/-- Reads an anchor and a tag, in any order. -/
def readProperties : Reading Properties := do
  let before ← readAnchor
  let tag ← readTag
  let after ← if before.isNone then readAnchor else pure none
  let tag ← tag.mapM fullTag
  return ⟨← (before <|> after).mapM number, tag⟩

/-- An empty scalar where nothing is written. -/
def nothing : Reading Node := do count; return empty

/-- Reads an alias. -/
def readAlias (name : String) : Reading Node := do
  match (← get).anchors.lookup name with
  | some anchor => advance; count; return .alias anchor
  | none => fail .unknownAnchor

/-- The tokens at which a key or a value of a block mapping is over, though nothing was
written. -/
def memberEnds : List Token.Kind := [.key, .value, .blockEnd]

/-- Whether one of some tokens is next. -/
def isNext (kinds : List Token.Kind) : Reading Bool := return (← peek).any (· ∈ kinds)

mutual

/-- Reads a node. Outside of flow collections it may be a block collection, and after a key a
sequence whose items are indented no more than the key. -/
def read (fuel : Nat) (block indentless : Bool) : Reading Node :=
  match fuel with
  | 0 => fail .contentExpected
  | fuel + 1 => do
    if let some (.alias name) := ← peek then readAlias name
    else
      let properties ← readProperties
      let place := (← get).size
      let node ← readContent fuel block indentless properties
      if let some anchor := properties.anchor then keep anchor place node
      return node

/-- Reads what a node holds. Nothing is an empty scalar, if the node has an anchor or a tag. The
tag that is a mark alone says nothing of a scalar. -/
def readContent (fuel : Nat) (block indentless : Bool) (properties : Properties) : Reading Node :=
  match fuel with
  | 0 => fail .contentExpected
  | fuel + 1 => do
    count
    match ← peek with
    | some (.scalar text plain) =>
      advance
      return scalar text plain (properties.tag.filter (· ≠ "!"))
    | some .flowSequence =>
      advance
      let items ← readFlowItems fuel true
      count
      return sequence items
    | some .flowMapping =>
      advance
      let members ← readFlowMembers fuel true
      count
      return mapping members
    | kind =>
      if kind = some .item ∧ indentless then
        let items ← readIndentlessItems fuel
        count
        return sequence items
      else if kind = some .blockSequence ∧ block then
        advance
        let items ← readItems fuel
        count
        return sequence items
      else if kind = some .blockMapping ∧ block then
        advance
        let members ← readMembers fuel
        count
        return mapping members
      else if properties.any then return scalar "" true properties.tag
      else fail .contentExpected

/-- Reads a node, or nothing when it is over at once. -/
def readUnless (fuel : Nat) (ends : List Token.Kind) (block indentless : Bool) : Reading Node :=
  match fuel with
  | 0 => fail .contentExpected
  | fuel + 1 => do if ← isNext ends then nothing else read fuel block indentless

/-- Reads the items of a block sequence. -/
def readItems (fuel : Nat) : Reading (List Node) :=
  match fuel with
  | 0 => fail .itemExpected
  | fuel + 1 => do
    match ← peek with
    | some .item =>
      advance
      let node ← readUnless fuel [.item, .blockEnd] true false
      return node :: (← readItems fuel)
    | some .blockEnd => advance; return []
    | _ => fail .itemExpected

/-- Reads the items of a sequence that ends where no item follows. -/
def readIndentlessItems (fuel : Nat) : Reading (List Node) :=
  match fuel with
  | 0 => fail .itemExpected
  | fuel + 1 => do
    if ← isNext [.item] then
      advance
      let node ← readUnless fuel (.item :: memberEnds) true false
      return node :: (← readIndentlessItems fuel)
    else
      return []

/-- Reads the members of a block mapping. -/
def readMembers (fuel : Nat) : Reading (List (Node × Node)) :=
  match fuel with
  | 0 => fail .keyExpected
  | fuel + 1 => do
    match ← peek with
    | some .key =>
      advance
      let key ← readUnless fuel memberEnds true true
      let value ← readValue fuel
      return (key, value) :: (← readMembers fuel)
    | some .blockEnd => advance; return []
    | _ => fail .keyExpected

/-- Reads the value of a member of a block mapping, which may be missing. -/
def readValue (fuel : Nat) : Reading Node :=
  match fuel with
  | 0 => fail .contentExpected
  | fuel + 1 => do
    if ← isNext [.value] then
      advance
      readUnless fuel memberEnds true true
    else
      nothing

/-- Reads the items of a flow sequence, with commas between them. An item may be a single member,
which makes it a mapping. -/
def readFlowItems (fuel : Nat) (first : Bool) : Reading (List Node) :=
  match fuel with
  | 0 => fail (.commaExpected ']')
  | fuel + 1 => do
    if ← isNext [.flowSequenceEnd] then advance; return []
    else
      unless first do
        if ← isNext [.comma] then advance else fail (.commaExpected ']')
      match ← peek with
      | some .flowSequenceEnd => advance; return []
      | some .key =>
        advance
        let pair ← readFlowPair fuel
        return pair :: (← readFlowItems fuel false)
      | _ =>
        let node ← read fuel false false
        return node :: (← readFlowItems fuel false)

/-- Reads the members of a flow mapping, with commas between them. A key may stand alone. -/
def readFlowMembers (fuel : Nat) (first : Bool) : Reading (List (Node × Node)) :=
  match fuel with
  | 0 => fail (.commaExpected '\x7d')
  | fuel + 1 => do
    if ← isNext [.flowMappingEnd] then advance; return []
    else
      unless first do
        if ← isNext [.comma] then advance else fail (.commaExpected '\x7d')
      match ← peek with
      | some .flowMappingEnd => advance; return []
      | some .key =>
        advance
        let key ← readUnless fuel [.value, .comma, .flowMappingEnd] false false
        let value ← readFlowValue fuel [.comma, .flowMappingEnd]
        return (key, value) :: (← readFlowMembers fuel false)
      | _ =>
        let key ← read fuel false false
        let value ← nothing
        return (key, value) :: (← readFlowMembers fuel false)

/-- Reads the single member of a mapping inside a flow sequence, after the sign of its key. A key
that is missing takes with it the token that is read in its place. -/
def readFlowPair (fuel : Nat) : Reading Node :=
  match fuel with
  | 0 => fail .contentExpected
  | fuel + 1 => do
    count
    let key ←
      if ← isNext [.value, .comma, .flowSequenceEnd] then
        advance
        nothing
      else
        read fuel false false
    let value ← readFlowValue fuel [.comma, .flowSequenceEnd]
    count
    return mapping [(key, value)]

/-- Reads a value inside a flow collection, which may be missing. -/
def readFlowValue (fuel : Nat) (ends : List Token.Kind) : Reading Node :=
  match fuel with
  | 0 => fail .contentExpected
  | fuel + 1 => do
    if ← isNext [.value] then
      advance
      readUnless fuel ends false false
    else
      nothing

end

/-- Whether a token stands between documents. -/
def isBetween : Option Token.Kind → Bool
  | none | some .documentStart | some .documentEnd | some (.directive _) => true
  | _ => false

/-- The directives of a document after one more, `versioned` if one before told the version. -/
def readDirective (versioned : Bool) : Directive → Reading Bool
  | .version major minor =>
    if versioned then fail .repeatedDirective
    else if major = 1 && (minor = 1 || minor = 2) then return true
    else fail .unknownVersion
  | .handle name meaning => do
    if ((← get).handles.lookup name).isSome then fail .repeatedDirective
    modify fun input => { input with handles := (name, meaning) :: input.handles }
    return versioned

/-- Reads the directives before a document and the mark that begins it, which only a document
without directives may lack. Says whether there was a mark. -/
def readStart (directed versioned : Bool) : List Token → Reading Bool
  | [] => if directed then fail .documentStartExpected else fail .noDocument
  | token :: tokens =>
    match token.kind with
    | .documentStart => do advance; return true
    | .directive directive => do
      let versioned ← readDirective versioned directive
      advance
      readStart true versioned tokens
    | _ => if directed then fail .documentStartExpected else return false

/-- Reads the end of the only document of a text. -/
def readEnd : List Token → Reading Unit
  | [] => return
  | token :: tokens => do
    if token.kind = .documentEnd then advance; readEnd tokens
    else if isBetween (some token.kind) then fail .severalDocuments
    else fail .documentStartExpected

/-- Reads the only document of a text. The reader goes down at most a few levels for each token,
so there is fuel enough. Handles that no directive tells stand for what they commonly do. -/
def readDocument : Reading Node := do
  let tokens := (← get).tokens
  let marked ← readStart false false tokens
  modify fun input => { input with handles := input.handles ++ commonHandles }
  let node ←
    if marked && isBetween (← peek) then nothing
    else read (8 * (tokens.length + 1)) true false
  readEnd (← get).tokens
  return node

end Node

/-- The only document of a text. -/
def Document.ofText (text : String) : Except Fault Document := do
  let (root, input) ← Node.readDocument.run ⟨← tokens text, [], [], [], 0⟩
  let later := fun (a b : Anchored) => decide (b.place ≤ a.place)
  return ⟨root, input.anchored.mergeSort later, input.size⟩

end PayloadModels.Yaml
