import PayloadModels.Json.Writer
import PayloadModels.Text

/-!
# Faults in JSON text

Why a text or a value could not be read (`Cause`), and where in the text that was seen (`Fault`).
A reader stops with the cause and what it had not read yet (`Stop`); `Stop.locate` turns that
into a line and a column, which counts bytes.
-/

namespace PayloadModels.Json

/-- What a value looks like from outside: a scalar whole, a container by its kind alone. -/
inductive Shape where
  | null
  | bool (value : Bool)
  | num (value : Number)
  | str (value : String)
  | sequence
  | map
  deriving DecidableEq, Repr

/-- The shape of a value. -/
def shape : Json → Shape
  | null => .null
  | bool b => .bool b
  | num n => .num n
  | str s => .str s
  | arr _ => .sequence
  | obj _ => .map

/-- The shape as messages name it. -/
def Shape.describe : Shape → String
  | null => "null"
  | bool b => "boolean `" ++ (if b then "true" else "false") ++ "`"
  | num (.int n) => "integer `" ++ toString n ++ "`"
  | num (.float x) => "floating point `" ++ floatText x ++ "`"
  | str s => "string " ++ Text.showQuoted s
  | sequence => "sequence"
  | map => "map"

/-- What a reader asks a value to be. -/
inductive Expected where
  | int64
  | boolean
  | string
  | map
  | sequence
  /-- The record of that name. -/
  | record (name : String)
  deriving DecidableEq, Repr

/-- The expectation as messages name it. -/
def Expected.describe : Expected → String
  | int64 => "i64"
  | boolean => "a boolean"
  | string => "a string"
  | map => "a map"
  | sequence => "a sequence"
  | record name => "struct " ++ name

/-- Why a text or a value was refused. -/
inductive Cause where
  | expectedValue
  | endInValue
  | endInList
  | endInObject
  | endInString
  | expectedColon
  | expectedListEnd
  | expectedObjectEnd
  | trailingComma
  | keyNotString
  | trailingCharacters
  /-- Containers are open inside each other to the limit. -/
  | tooDeep
  | invalidNumber
  | unknownWord
  | numberOutOfRange
  | controlCharacter
  | invalidEscape
  /-- The escape of a low surrogate first, or of anything else after that of a high one. -/
  | loneSurrogate
  /-- No escape after that of a high surrogate. -/
  | unpairedSurrogate
  /-- A value of another kind, or an integer out of range. -/
  | mismatch (found : Shape) (expected : Expected)
  | duplicateField (key : String)
  deriving DecidableEq, Repr

/-- The cause as messages give it. -/
def Cause.describe : Cause → String
  | expectedValue => "expected value"
  | endInValue => "EOF while parsing a value"
  | endInList => "EOF while parsing a list"
  | endInObject => "EOF while parsing an object"
  | endInString => "EOF while parsing a string"
  | expectedColon => "expected `:`"
  | expectedListEnd => "expected `,` or `]`"
  | expectedObjectEnd => "expected `,` or `\x7d`"
  | trailingComma => "trailing comma"
  | keyNotString => "key must be a string"
  | trailingCharacters => "trailing characters"
  | tooDeep => "recursion limit exceeded"
  | invalidNumber => "invalid number"
  | unknownWord => "expected ident"
  | numberOutOfRange => "number out of range"
  | controlCharacter => "control character (\\u0000-\\u001F) found while parsing a string"
  | invalidEscape => "invalid escape"
  | loneSurrogate => "lone leading surrogate in hex escape"
  | unpairedSurrogate => "unexpected end of hex escape"
  | mismatch (.num (.int n)) .int64 =>
    "invalid value: " ++ (Shape.num (.int n)).describe ++ ", expected " ++ Expected.int64.describe
  | mismatch found expected =>
    "invalid type: " ++ found.describe ++ ", expected " ++ expected.describe
  | duplicateField key => "duplicate field `" ++ key ++ "`"

/-- Where and why reading a text stopped. -/
structure Stop where
  cause : Cause
  /-- What had not been read. -/
  rest : List Char
  /-- How many bytes of the rest the fault lies after. -/
  into : Nat
  deriving DecidableEq, Repr

/-- A fault before what is left. -/
def Stop.before (cause : Cause) (rest : List Char) : Stop := ⟨cause, rest, 0⟩

/-- A fault at the first byte of what is left. -/
def Stop.at (cause : Cause) (rest : List Char) : Stop := ⟨cause, rest, 1⟩

/-- A fault in a text, at a line counted from 1 and after so many bytes of that line. -/
structure Fault where
  cause : Cause
  line : Nat
  column : Nat
  deriving DecidableEq, Repr

/-- The fault as messages give it. -/
def Fault.describe (fault : Fault) : String :=
  fault.cause.describe ++ " at line " ++ toString fault.line ++ " column "
    ++ toString fault.column

/-- The bytes of characters. -/
def utf8 (cs : List Char) : List UInt8 := cs.flatMap String.utf8EncodeChar

/-- The place in the whole text at which reading stopped. -/
def Stop.locate (stop : Stop) (text : List Char) : Fault :=
  let read := utf8 (text.take (text.length - stop.rest.length)) ++ (utf8 stop.rest).take stop.into
  { cause := stop.cause
    line := read.count 10 + 1
    column := (read.reverse.takeWhile (· ≠ 10)).length }

end PayloadModels.Json
