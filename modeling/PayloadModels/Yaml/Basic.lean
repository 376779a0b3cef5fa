/-!
# Characters and faults of YAML

What reading a YAML text starts from, and why it may fail.
-/

namespace PayloadModels.Yaml

/-!
## Characters of YAML

The classes of characters that the lexer tells apart, and the text it works on: `unified` writes
every line break that is not a separator of its own as a line feed, so that a break is always one
character.
-/

/-- A line feed, or one of the two separators that are kept as they are. -/
def isBreak (c : Char) : Bool := c = '\n' || c = '\u2028' || c = '\u2029'

/-- A space or a tab. -/
def isGap (c : Char) : Bool := c = ' ' || c = '\t'

/-- Whether a word ends here: with the text, a gap or a break. -/
def endsWord : List Char → Bool
  | [] => true
  | c :: _ => isGap c || isBreak c

/-- A character that a text may hold. -/
def isAllowed (c : Char) : Bool :=
  c = '\t' || c = '\n' || c = '\r' || c = '\u0085' || (' ' ≤ c && c ≤ '~')
    || ('\u00a0' ≤ c && c ≤ '\ufffd') || '\uffff' < c

/-- The mark of the order of bytes, which may stand at the beginning of a line. -/
def orderMark : Char := '\ufeff'

/-- The text with a line feed for each carriage return, next line character, and pair of a
carriage return and a line feed. -/
def unified : List Char → List Char
  | [] => []
  | '\r' :: '\n' :: cs => '\n' :: unified cs
  | c :: cs => (if c = '\r' || c = '\u0085' then '\n' else c) :: unified cs

/-- Whether the text goes on with a mark between documents, three of one character and no more of
the word. -/
def startsMark (c : Char) : List Char → Bool
  | x :: y :: z :: rest => x = c && y = c && z = c && endsWord rest
  | _ => false

/-- Whether the text goes on with a mark that begins or ends a document. -/
def startsDocumentMark (cs : List Char) : Bool := startsMark '-' cs || startsMark '.' cs

/-- A character that names are made of. -/
def isNameChar (c : Char) : Bool := c.isAlphanum || c = '_' || c = '-'

/-- The value of a hexadecimal digit. -/
def hexValue? (c : Char) : Option Nat :=
  if c.isDigit then some (c.toNat - '0'.toNat)
  else if 'a' ≤ c ∧ c ≤ 'f' then some (c.toNat - 'a'.toNat + 10)
  else if 'A' ≤ c ∧ c ≤ 'F' then some (c.toNat - 'A'.toNat + 10)
  else none

/-!
## Faults in YAML

Why a text is no YAML document (`Problem`), and where that was seen (`Fault`).
-/

/-- Why a text was refused. -/
inductive Problem where
  | controlCharacter
  | unexpectedCharacter
  | itemNotAllowed
  | keyNotAllowed
  | valueNotAllowed
  | colonMissing
  | tabInIndentation
  | unexpectedColon
  | unclosedQuote
  | markInQuotes
  | unknownEscape
  | badBlockHeader
  | badAnchor
  | badTag
  | badDirective
  | repeatedDirective
  | unknownVersion
  | unknownHandle
  | contentExpected
  | keyExpected
  | itemExpected
  | commaExpected (close : Char)
  | documentStartExpected
  | unknownAnchor
  | noDocument
  | severalDocuments
  deriving DecidableEq, Repr

/-- The problem as messages give it. -/
def Problem.describe : Problem → String
  | controlCharacter => "control characters are not allowed"
  | unexpectedCharacter => "found character that cannot start any token"
  | itemNotAllowed => "block sequence entries are not allowed in this context"
  | keyNotAllowed => "mapping keys are not allowed in this context"
  | valueNotAllowed => "mapping values are not allowed in this context"
  | colonMissing => "could not find expected ':'"
  | tabInIndentation => "found a tab character where indentation is expected"
  | unexpectedColon => "found unexpected ':'"
  | unclosedQuote => "found unexpected end of stream"
  | markInQuotes => "found unexpected document indicator"
  | unknownEscape => "found unknown escape character"
  | badBlockHeader => "did not find expected comment or line break"
  | badAnchor => "did not find expected alphabetic or numeric character"
  | badTag => "did not find expected tag"
  | badDirective => "found unknown directive"
  | repeatedDirective => "found duplicate directive"
  | unknownVersion => "found incompatible YAML document"
  | unknownHandle => "found undefined tag handle"
  | contentExpected => "did not find expected node content"
  | keyExpected => "did not find expected key"
  | itemExpected => "did not find expected '-' indicator"
  | commaExpected close => "did not find expected ',' or '" ++ close.toString ++ "'"
  | documentStartExpected => "did not find expected <document start>"
  | unknownAnchor => "unknown anchor"
  | noDocument => "EOF while parsing a value"
  | severalDocuments => "deserializing from YAML containing more than one document is not supported"

/-- A fault in a text, lines and columns counted from 0. -/
structure Fault where
  problem : Problem
  line : Nat
  column : Nat
  deriving DecidableEq, Repr

/-- The fault as messages give it, lines and columns counted from 1. -/
def Fault.describe (fault : Fault) : String :=
  fault.problem.describe ++ " at line " ++ toString (fault.line + 1) ++ " column "
    ++ toString (fault.column + 1)

end PayloadModels.Yaml
