import PayloadModels.Yaml.Basic

/-!
# Scalars of YAML

The texts that a YAML document holds. They are written in three ways: plain, between quotes and
as a block.
-/

namespace PayloadModels.Yaml

/-!
## Folding of lines

A scalar that is not a block may go over several lines. One break between two of its lines counts
as a space, and of several the first is dropped; gaps around breaks count for nothing. `Folding`
keeps the gaps and breaks that are read until it is known what follows them.
-/

/-- What has been read since the last character that is no gap. -/
inductive Folding.Pending where
  /-- Gaps within a line. -/
  | gaps (text : List Char)
  /-- A break, or one that was escaped, and the breaks after it. -/
  | breaks (first : Option Char) (more : List Char)
  deriving DecidableEq, Repr

/-- A scalar while it is read. -/
structure Folding where
  /-- What has been read, the last character first. -/
  reversed : List Char
  pending : Folding.Pending
  deriving DecidableEq, Repr

namespace Folding

/-- The scalar of which nothing has been read. -/
def empty : Folding := ⟨[], .gaps []⟩

/-- The text of the scalar, but for what is pending. -/
def text (folding : Folding) : String := String.ofList folding.reversed.reverse

/-- The text that gaps and breaks stand for between two other characters. -/
def Pending.folded : Pending → List Char
  | gaps text => text
  | breaks (some '\n') [] => [' ']
  | breaks (some '\n') more => more
  | breaks first more => first.toList ++ more

/-- Whether nothing has been read since the last character that is no gap. -/
def Pending.isEmpty (pending : Pending) : Bool := pending = gaps []

/-- Whether a break has been read since the last character that is no gap. -/
def Pending.hasBreak : Pending → Bool
  | gaps _ => false
  | breaks _ _ => true

/-- The scalar with what is pending taken into its text. -/
def settle (folding : Folding) : Folding :=
  ⟨folding.pending.folded.reverse ++ folding.reversed, .gaps []⟩

/-- The scalar after a character that is no gap. -/
def push (folding : Folding) (c : Char) : Folding :=
  ⟨c :: folding.settle.reversed, .gaps []⟩

/-- The scalar after a gap, which is dropped after a break. -/
def gap (folding : Folding) (c : Char) : Folding :=
  match folding.pending with
  | .gaps text => { folding with pending := .gaps (text ++ [c]) }
  | .breaks _ _ => folding

/-- The scalar after a break. -/
def lineBreak (folding : Folding) (c : Char) : Folding :=
  match folding.pending with
  | .gaps _ => { folding with pending := .breaks (some c) [] }
  | .breaks first more => { folding with pending := .breaks first (more ++ [c]) }

/-- The scalar after a break that is escaped. -/
def escapedBreak (folding : Folding) : Folding :=
  { folding.settle with pending := .breaks none [] }

end Folding

/-!
## Plain scalars

A scalar that stands without quotes goes on until something ends it: a comment, the colon after a
key, in a flow collection one of its signs, and outside of one a line that is indented less.
-/

/-- The signs of flow collections, which end a plain scalar inside one. -/
def isFlowSign (c : Char) : Bool := c ∈ [',', '[', ']', '\x7b', '\x7d']

/-- Whether a character that is no gap or break ends a plain scalar. -/
def endsPlain (inFlow : Bool) (indent column : Nat) (pending : Folding.Pending) (c : Char)
    (cs : List Char) : Bool :=
  pending.hasBreak && (!inFlow && column < indent || column = 0 && startsDocumentMark (c :: cs))
    || c = '#' && !pending.isEmpty
    || c = ':' && endsWord cs
    || inFlow && isFlowSign c

/-- Reads a plain scalar on, from a column, whose later lines are indented by `indent` at least.
`taken` is how many characters were read before. -/
def readPlain (inFlow : Bool) (indent : Nat) (folding : Folding) (column taken : Nat) :
    List Char → Except Problem (Folding × Nat)
  | [] => .ok (folding, taken)
  | c :: cs =>
    if isGap c then
      if c = '\t' && column < indent && folding.pending.hasBreak then .error .tabInIndentation
      else readPlain inFlow indent (folding.gap c) (column + 1) (taken + 1) cs
    else if isBreak c then readPlain inFlow indent (folding.lineBreak c) 0 (taken + 1) cs
    else if endsPlain inFlow indent column folding.pending c cs then .ok (folding, taken)
    else if inFlow && c = ':' && cs.head?.any (fun d => d = '?' || isFlowSign d) then
      .error .unexpectedColon
    else readPlain inFlow indent (folding.push c) (column + 1) (taken + 1) cs

/-!
## Quoted scalars

Between single quotes only the quote itself is written specially, twice; between double quotes a
backslash begins an escape. In both, breaks are folded.
-/

/-- The characters before the quote that closes a scalar. A quote that is doubled does not
close. -/
def insideSingle? : List Char → Option (List Char)
  | [] => none
  | '\'' :: '\'' :: cs => (insideSingle? cs).map fun inside => '\'' :: '\'' :: inside
  | '\'' :: _ => some []
  | c :: cs => (insideSingle? cs).map (c :: ·)

/-- The characters before the quote that closes a scalar. A quote after a backslash does not
close. -/
def insideDouble? : List Char → Option (List Char)
  | [] => none
  | '\\' :: c :: cs => (insideDouble? cs).map fun inside => '\\' :: c :: inside
  | '"' :: _ => some []
  | c :: cs => (insideDouble? cs).map (c :: ·)

/-- Whether a line after the first begins with a mark between documents. -/
def hasMark : List Char → Bool
  | [] => false
  | c :: cs => (isBreak c && startsDocumentMark cs) || hasMark cs

/-- The scalar after characters between single quotes. -/
def Folding.readSingle (folding : Folding) : List Char → Folding
  | [] => folding.settle
  | '\'' :: '\'' :: cs => (folding.push '\'').readSingle cs
  | c :: cs =>
    if isGap c then (folding.gap c).readSingle cs
    else if isBreak c then (folding.lineBreak c).readSingle cs
    else (folding.push c).readSingle cs

/-- The character that an escape of one letter stands for. -/
def escaped? (c : Char) : Option Char :=
  match c with
  | '0' => some '\x00'
  | 'a' => some '\x07'
  | 'b' => some '\x08'
  | 't' | '\t' => some '\t'
  | 'n' => some '\n'
  | 'v' => some '\x0b'
  | 'f' => some '\x0c'
  | 'r' => some '\r'
  | 'e' => some '\x1b'
  | ' ' => some ' '
  | '"' => some '"'
  | '/' => some '/'
  | '\\' => some '\\'
  | 'N' => some '\u0085'
  | '_' => some '\u00a0'
  | 'L' => some '\u2028'
  | 'P' => some '\u2029'
  | _ => none

/-- How many digits follow the letter of an escape that writes a code point. -/
def escapeWidth? (c : Char) : Option Nat :=
  match c with
  | 'x' => some 2
  | 'u' => some 4
  | 'U' => some 8
  | _ => none

/-- The character of a code point, if it is one. -/
def charOf? (n : Nat) : Option Char := if n.isValidChar then some (Char.ofNat n) else none

/-- The scalar after characters between double quotes. `code` is an escape that is being read: how
many digits are missing, and the value of those before. -/
def Folding.readDouble (folding : Folding) (code : Option (Nat × Nat)) :
    List Char → Option Folding
  | [] => if code.isNone then some folding.settle else none
  | c :: cs =>
    match code with
    | some (missing, value) =>
      (hexValue? c).bind fun digit =>
        if missing ≤ 1 then
          (charOf? (value * 16 + digit)).bind fun c => (folding.push c).readDouble none cs
        else
          folding.readDouble (some (missing - 1, value * 16 + digit)) cs
    | none =>
      if c = '\\' then
        match cs with
        | [] => none
        | e :: cs =>
          if isBreak e then folding.escapedBreak.readDouble none cs
          else
            match escapeWidth? e with
            | some width => folding.readDouble (some (width, 0)) cs
            | none => (escaped? e).bind fun c => (folding.push c).readDouble none cs
      else if isGap c then (folding.gap c).readDouble none cs
      else if isBreak c then (folding.lineBreak c).readDouble none cs
      else (folding.push c).readDouble none cs

/-- Reads a scalar after its opening quote: the text, and how many characters it takes with the
closing quote. -/
def readQuoted (quote : Char) (cs : List Char) : Except Problem (String × Nat) :=
  match if quote = '"' then insideDouble? cs else insideSingle? cs with
  | none => .error .unclosedQuote
  | some inside =>
    if hasMark (inside ++ [quote]) then .error .markInQuotes
    else if quote = '"' then
      match Folding.empty.readDouble none inside with
      | none => .error .unknownEscape
      | some folding => .ok (folding.text, inside.length + 1)
    else
      .ok ((Folding.empty.readSingle inside).text, inside.length + 1)

/-!
## Block scalars

A block scalar is the lines below its header that are indented enough. In a literal one the breaks
stay; in a folded one a break between two lines that begin with no gap counts as a space. The
header may say how far the lines are indented, and what happens to the breaks at the end.
-/

/-- What happens to the breaks at the end of a block scalar. -/
inductive Chomping where
  /-- All are dropped. -/
  | strip
  /-- One is kept. -/
  | clip
  /-- All are kept. -/
  | keep
  deriving DecidableEq, Repr

/-- What the header of a block scalar says. -/
structure BlockHeader where
  chomping : Chomping
  /-- How much farther than the collection around it the scalar is indented. -/
  indent : Option Nat
  deriving DecidableEq, Repr

/-- A line without the break that ends it, which the last line of a text may lack. -/
structure BlockLine where
  text : List Char
  ending : Option Char
  deriving DecidableEq, Repr

/-- The lines of a text. After the last break, nothing is no line. -/
def blockLines : List Char → List BlockLine
  | [] => []
  | c :: cs =>
    if isBreak c then ⟨[], some c⟩ :: blockLines cs
    else
      match blockLines cs with
      | [] => [⟨[c], none⟩]
      | line :: lines => { line with text := c :: line.text } :: lines

/-- How many characters a line takes in the text. -/
def BlockLine.width (line : BlockLine) : Nat := line.text.length + line.ending.toList.length

/-- Reads the signs after the one that begins a block scalar. -/
def readBlockSigns (header : BlockHeader) (hasChomping : Bool) :
    List Char → Except Problem (BlockHeader × List Char)
  | [] => .ok (header, [])
  | c :: cs =>
    if !hasChomping && (c = '+' || c = '-') then
      readBlockSigns { header with chomping := if c = '+' then .keep else .strip } true cs
    else if header.indent.isNone && c.isDigit then
      if c = '0' then .error .badBlockHeader
      else readBlockSigns { header with indent := some (c.toNat - '0'.toNat) } hasChomping cs
    else
      .ok (header, c :: cs)

/-- Reads the line that a block scalar begins with, after its first sign. -/
def readBlockHeader (line : List Char) : Except Problem BlockHeader := do
  let (header, rest) ← readBlockSigns ⟨.clip, none⟩ false line
  match rest.dropWhile isGap with
  | [] | '#' :: _ => return header
  | _ => .error .badBlockHeader

/-- How many spaces a line begins with. -/
def leadingSpaces (line : BlockLine) : Nat := (line.text.takeWhile (· = ' ')).length

/-- Whether a line holds nothing but spaces. -/
def isSpaces (line : BlockLine) : Bool := line.text.all (· = ' ')

/-- How far a block scalar is indented whose header does not say it: as far as its first line that
holds more than spaces, or a line before that. -/
def findIndent (least : Nat) : List BlockLine → Except Problem Nat
  | [] => .ok least
  | line :: lines =>
    let least := max least (leadingSpaces line)
    if isSpaces line then findIndent least lines
    else if (line.text.drop (leadingSpaces line)).head? = some '\t' then .error .tabInIndentation
    else .ok least

/-- A block scalar while it is read. -/
structure BlockText where
  /-- What has been read, the last character first. -/
  reversed : List Char
  /-- The break that ends the last line. -/
  ending : Option Char
  /-- The breaks of the empty lines after it. -/
  empties : List Char
  /-- Whether the last line begins with a gap. -/
  afterGap : Bool
  deriving DecidableEq, Repr

namespace BlockText

/-- The scalar of which nothing has been read. -/
def start : BlockText := ⟨[], none, [], false⟩

/-- The scalar after an empty line. -/
def empty (block : BlockText) (ending : Option Char) : BlockText :=
  { block with empties := block.empties ++ ending.toList }

/-- The scalar after a line, without its indentation. -/
def push (block : BlockText) (folded : Bool) (line : BlockLine) : BlockText :=
  let startsWithGap := line.text.head?.any isGap
  let joined :=
    if folded && block.ending = some '\n' && !block.afterGap && !startsWithGap then
      if block.empties.isEmpty then [' '] else block.empties
    else
      block.ending.toList ++ block.empties
  ⟨line.text.reverse ++ joined.reverse ++ block.reversed, line.ending, [], startsWithGap⟩

/-- The text of the scalar. -/
def finish (block : BlockText) (chomping : Chomping) : String :=
  let text := block.reversed.reverse
  String.ofList <|
    match chomping with
    | .strip => text
    | .clip => text ++ block.ending.toList
    | .keep => text ++ block.ending.toList ++ block.empties

end BlockText

/-- Reads the lines of a block scalar that are indented by `indent`. `taken` is how many characters
were read before; those of its own lines are added to it. -/
def readBlockLines (folded : Bool) (indent : Nat) (block : BlockText) (taken : Nat) :
    List BlockLine → Except Problem (BlockText × Nat)
  | [] => .ok (block, taken)
  | line :: lines =>
    let spaces := min indent (leadingSpaces line)
    let text := line.text.drop spaces
    if text.isEmpty then
      readBlockLines folded indent (block.empty line.ending) (taken + line.width) lines
    else if spaces < indent then
      if text.head? = some '\t' then .error .tabInIndentation else .ok (block, taken)
    else
      readBlockLines folded indent (block.push folded { line with text := text })
        (taken + line.width) lines

/-- Reads a block scalar after its first sign, inside a collection that is indented by `around`:
the text, and how many characters it takes. -/
def readBlock (folded : Bool) (around : Option Nat) (cs : List Char) :
    Except Problem (String × Nat) := do
  match blockLines cs with
  | [] => return ("", 0)
  | first :: lines =>
    let header ← readBlockHeader first.text
    let indent ← match header.indent with
      | some farther => .ok (around.getD 0 + farther)
      | none => findIndent (max 1 (around.elim 0 (· + 1))) lines
    let (block, taken) ← readBlockLines folded indent .start first.width lines
    return (block.finish header.chomping, taken)

end PayloadModels.Yaml
