import PayloadModels.Yaml.Basic

/-!
# Tags and tokens of YAML

What the lexer cuts a YAML text into.
-/

namespace PayloadModels.Yaml

/-!
## Tags and directives

A tag tells of what kind a node is. It is written in full between angle brackets, or as a handle
and a suffix; what a handle stands for is told by a directive before the document. `Tag.read` and
`Directive.read` read both. In a tag a percent sign begins an escape: two digits for each octet of
a character.
-/

/-- A tag as it is written. A tag in full has an empty handle. -/
structure Tag where
  handle : String
  suffix : String
  deriving DecidableEq, Repr

/-- A line that tells how to read the document after it. -/
inductive Directive where
  /-- The version of YAML. -/
  | version (major minor : Nat)
  /-- What a handle stands for. -/
  | handle (name meaning : String)
  deriving DecidableEq, Repr

/-- The tag of a node that holds nothing, in full. -/
def nullTag : String := "tag:yaml.org,2002:null"

/-- What the handles stand for that need no directive. -/
def commonHandles : List (String × String) := [("!", "!"), ("!!", "tag:yaml.org,2002:")]

/-- A character of a tag. Between angle brackets and in a directive (`wide`) it may also be one
that means something in flow collections. -/
def isTagChar (wide : Bool) (c : Char) : Bool :=
  isNameChar c || c ∈ ";/?:@&=+$.%!~*'()".toList || wide && c ∈ [',', '[', ']']

/-- A piece of a tag: a character that stands for itself, or an octet of one that is escaped. -/
inductive TagPiece where
  | plain (c : Char)
  | octet (n : Nat)
  deriving DecidableEq, Repr

/-- The pieces of a tag, if its escapes are well formed. -/
def tagPieces? : List Char → Option (List TagPiece)
  | [] => some []
  | '%' :: high :: low :: cs => do
    let octet := 16 * (← hexValue? high) + (← hexValue? low)
    return .octet octet :: (← tagPieces? cs)
  | c :: cs => if c = '%' then none else (tagPieces? cs).map (.plain c :: ·)

/-- A character of which some octets are missing. -/
structure OpenChar where
  missing : Nat
  value : Nat
  /-- The least value for which so many octets are needed. -/
  least : Nat

/-- The character that begins with an octet. -/
def OpenChar.ofOctet? (octet : Nat) : Option OpenChar :=
  if octet < 0x80 then some ⟨0, octet, 0⟩
  else if octet < 0xc0 then none
  else if octet < 0xe0 then some ⟨1, octet - 0xc0, 0x80⟩
  else if octet < 0xf0 then some ⟨2, octet - 0xe0, 0x800⟩
  else if octet < 0xf8 then some ⟨3, octet - 0xf0, 0x10000⟩
  else none

/-- The character after one more octet. -/
def OpenChar.push? (char : OpenChar) (octet : Nat) : Option OpenChar :=
  if 0x80 ≤ octet ∧ octet < 0xc0 then
    some { char with missing := char.missing - 1, value := 64 * char.value + (octet - 0x80) }
  else
    none

/-- The character itself. Octets that are more than it needs, or that write no character, count as
the replacement character. -/
def OpenChar.char (char : OpenChar) : Char :=
  if char.least ≤ char.value ∧ char.value.isValidChar then Char.ofNat char.value else '\ufffd'

/-- The characters of a tag, if its octets make up whole characters. `current` is the one whose
octets are being read. -/
def joinPieces? (current : Option OpenChar) : List TagPiece → Option (List Char)
  | [] => if current.isNone then some [] else none
  | .plain c :: pieces => if current.isNone then (joinPieces? none pieces).map (c :: ·) else none
  | .octet n :: pieces => do
    let char ← match current with
      | none => OpenChar.ofOctet? n
      | some char => char.push? n
    if char.missing = 0 then return char.char :: (← joinPieces? none pieces)
    else joinPieces? (some char) pieces

/-- Reads a part of a tag: its text, which ends before a null character, how many characters write
it, and what follows them. -/
def readTagText (wide : Bool) (cs : List Char) : Except Problem (String × Nat × List Char) :=
  let written := cs.takeWhile (isTagChar wide)
  match (tagPieces? written).bind (joinPieces? none) with
  | none => .error .badTag
  | some text =>
    .ok (String.ofList (text.takeWhile (· ≠ '\x00')), written.length,
      cs.dropWhile (isTagChar wide))

/-- Reads a part of a tag that may not be missing. -/
def readSomeTagText (wide : Bool) (cs : List Char) : Except Problem (String × List Char) := do
  let (text, width, rest) ← readTagText wide cs
  if width = 0 then .error .badTag else return (text, rest)

/-- Cuts off an exclamation mark, a name and, if there is one, the mark after it. -/
def cutHandle (cs : List Char) : List Char × List Char :=
  let name := (cs.drop 1).takeWhile isNameChar
  match (cs.drop 1).dropWhile isNameChar with
  | '!' :: rest => ('!' :: name ++ ['!'], rest)
  | rest => ('!' :: name, rest)

/-- Whether what `cutHandle` cut off ends with a mark of its own. -/
def isClosedHandle (handle : List Char) : Bool :=
  1 < handle.length && handle.getLast? = some '!'

namespace Tag

/-- Reads a tag, which begins with an exclamation mark: the tag, and what follows it. -/
def read : List Char → Except Problem (Tag × List Char)
  | '!' :: '<' :: cs => do
    match ← readSomeTagText true cs with
    | (text, '>' :: rest) => return (⟨"", text⟩, rest)
    | _ => .error .badTag
  | cs => do
    let (handle, rest) := cutHandle cs
    if isClosedHandle handle then
      let (suffix, rest) ← readSomeTagText false rest
      return (⟨String.ofList handle, suffix⟩, rest)
    else
      let (text, _, rest) ← readTagText false rest
      let suffix := String.ofList (handle.drop 1) ++ text
      return (if suffix.isEmpty then ⟨"", "!"⟩ else ⟨"!", suffix⟩, rest)

/-- The tag in full, if its handle is known. -/
def full? (tag : Tag) (handles : List (String × String)) : Option String :=
  if tag.handle.isEmpty then some tag.suffix
  else (handles.lookup tag.handle).map (· ++ tag.suffix)

end Tag

namespace Directive

/-- Reads a part of a version, which has nine digits at most. -/
def readNumber (cs : List Char) : Except Problem (Nat × List Char) :=
  let digits := cs.takeWhile Char.isDigit
  if digits.isEmpty || 9 < digits.length then .error .badDirective
  else
    let number := digits.foldl (fun n c => 10 * n + (c.toNat - '0'.toNat)) 0
    .ok (number, cs.dropWhile Char.isDigit)

/-- Reads a version, and gives what follows it. -/
def readVersion (cs : List Char) : Except Problem (Directive × List Char) := do
  match ← readNumber cs with
  | (major, '.' :: rest) =>
    let (minor, rest) ← readNumber rest
    return (version major minor, rest)
  | _ => .error .badDirective

/-- Reads a handle and what it stands for, and gives what follows. -/
def readHandle (cs : List Char) : Except Problem (Directive × List Char) := do
  let (name, rest) := cutHandle cs
  if cs.head? = some '!' && (isClosedHandle name || name.length = 1) && rest.head?.any isGap then
    let (meaning, rest) ← readSomeTagText true (rest.dropWhile isGap)
    if endsWord rest then return (handle (String.ofList name) meaning, rest)
    else .error .badDirective
  else
    .error .badDirective

/-- Reads the line of a directive after its percent sign. Only a comment may follow it. -/
def read (line : List Char) : Except Problem Directive := do
  let rest := line.dropWhile isNameChar
  let (directive, rest) ←
    if !endsWord rest then .error .badDirective
    else
      match String.ofList (line.takeWhile isNameChar) with
      | "YAML" => readVersion (rest.dropWhile isGap)
      | "TAG" => readHandle (rest.dropWhile isGap)
      | _ => .error .badDirective
  match rest.dropWhile isGap with
  | [] | '#' :: _ => return directive
  | _ => .error .badDirective

end Directive

/-!
## Tokens of YAML

What a text is cut into before it is understood as nodes. Indentation has become tokens: a block
collection has a start and an end, and the key and the value of a member are marked, even where
the text writes nothing there.
-/

/-- The kinds of token. -/
inductive Token.Kind where
  | directive (directive : Directive)
  | documentStart
  | documentEnd
  | blockSequence
  | blockMapping
  | blockEnd
  /-- Begins an item of a block sequence. -/
  | item
  | flowSequence
  | flowSequenceEnd
  | flowMapping
  | flowMappingEnd
  /-- Stands between the items of a flow collection. -/
  | comma
  /-- Begins the key of a member. -/
  | key
  /-- Begins the value of a member. -/
  | value
  | anchor (name : String)
  | alias (name : String)
  | tag (tag : Tag)
  /-- A scalar, which is plain when it stands without quotes on its own. -/
  | scalar (text : String) (plain : Bool)
  deriving DecidableEq, Repr

/-- A token and where it begins, lines and columns counted from 0. -/
structure Token where
  kind : Token.Kind
  line : Nat
  column : Nat
  deriving DecidableEq, Repr

end PayloadModels.Yaml
