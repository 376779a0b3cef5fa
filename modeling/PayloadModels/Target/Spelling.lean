import PayloadModels.Naming
import PayloadModels.Schema.Property
import PayloadModels.Target.Basic

/-!
# Spelling of types and names

How each target spells the type of a property, and its name.
-/

namespace PayloadModels.Target

/-!
## Spelling of types

How each target writes the type of a property. A property that only `null` has shown gets the
type that can hold anything, or in Swift, which has none that can be decoded, a string.
-/

/-- The spelling of a type in Swift. -/
def swiftType : PropertyType → String
  | .unknown | .string => "String"
  | .bool => "Bool"
  | .int => "Int"
  | .double => "Double"
  | .object model => model
  | .array element => "[" ++ swiftType element ++ "]"

/-- The spelling of a type in Kotlin. -/
def kotlinType : PropertyType → String
  | .unknown => "Any"
  | .bool => "Boolean"
  | .int => "Int"
  | .double => "Double"
  | .string => "String"
  | .object model => model
  | .array element => "List<" ++ kotlinType element ++ ">"

/-- The spelling of a type in Objective-C. Collections hold objects only, so a scalar is boxed
there. -/
def objcType : PropertyType → String
  | .unknown => "id"
  | .bool => "BOOL"
  | .int => "NSInteger"
  | .double => "double"
  | .string => "NSString *"
  | .object model => model ++ " *"
  | .array element =>
    "NSArray<" ++ (if element.isScalar then "NSNumber *" else objcType element) ++ "> *"

/-- The spelling of a type in Rust. -/
def rustType : PropertyType → String
  | .unknown => "serde_json::Value"
  | .bool => "bool"
  | .int => "i64"
  | .double => "f64"
  | .string => "String"
  | .object model => model
  | .array element => "Vec<" ++ rustType element ++ ">"

/-- The spelling of a type in the target. -/
def typeName : Target → PropertyType → String
  | swift => swiftType
  | kotlin => kotlinType
  | objcSource | objcHeader => objcType
  | rust => rustType

/-!
## Names of properties

A payload key becomes a property name in the casing of its target. A name that the target
reserves is escaped, between backquotes or behind a raw mark where the language has one and with
a suffix where it has none; `bareName` takes such an escape off again.
-/

/-- The words of Swift that no property may have for its name. -/
def swiftReserved : List String :=
  ["associatedtype", "class", "deinit", "enum", "extension", "fileprivate", "func", "import",
   "init", "inout", "internal", "let", "open", "operator", "private", "protocol", "public",
   "rethrows", "static", "struct", "subscript", "typealias", "var", "break", "case", "continue",
   "default", "defer", "do", "else", "fallthrough", "for", "guard", "if", "in", "repeat",
   "return", "switch", "where", "while", "as", "catch", "false", "is", "nil", "super", "self",
   "throw", "throws", "true", "try"]

/-- The words of Kotlin that no property may have for its name. -/
def kotlinReserved : List String :=
  ["as", "break", "class", "continue", "do", "else", "false", "for", "fun", "if", "in",
   "interface", "is", "null", "object", "package", "return", "super", "this", "throw", "true",
   "try", "typealias", "typeof", "val", "var", "when", "while"]

/-- The words of C and Objective-C that no property may have for its name, and the members of
the root class that a property would hide. -/
def objcReserved : List String :=
  ["auto", "break", "case", "char", "const", "continue", "default", "do", "double", "else",
   "enum", "extern", "float", "for", "goto", "if", "inline", "int", "long", "register",
   "restrict", "return", "short", "signed", "sizeof", "static", "struct", "switch", "typedef",
   "union", "unsigned", "void", "volatile", "while", "id", "self", "super", "nil", "in", "out",
   "inout", "bycopy", "byref", "oneway", "description", "debugDescription", "hash", "class",
   "superclass", "copy", "mutableCopy", "init", "new", "alloc", "retain", "release",
   "autorelease", "zone", "dealloc"]

/-- The words of Rust that a raw mark makes fit to be a name. -/
def rustReserved : List String :=
  ["as", "async", "await", "break", "const", "continue", "dyn", "else", "enum", "extern",
   "false", "fn", "for", "gen", "if", "impl", "in", "let", "loop", "match", "mod", "move", "mut",
   "pub", "ref", "return", "static", "struct", "trait", "true", "try", "type", "unsafe", "use",
   "where", "while", "abstract", "become", "box", "do", "final", "macro", "override", "priv",
   "typeof", "unsized", "virtual", "yield"]

/-- The words of Rust that not even a raw mark makes fit to be a name. -/
def rustNeverRaw : List String := ["self", "Self", "super", "crate"]

/-- The name between backquotes when it is one of the reserved words. -/
def backquoted (reserved : List String) (name : String) : String :=
  if name ∈ reserved then "`" ++ name ++ "`" else name

/-- The name of the property that a payload key stands for. -/
def propertyName (target : Target) (key : String) : String :=
  match target with
  | swift => backquoted swiftReserved (Naming.lowerCamel key)
  | kotlin => backquoted kotlinReserved (Naming.lowerCamel key)
  | objcSource | objcHeader =>
    let name := Naming.lowerCamel key
    if name ∈ objcReserved then name ++ "Value" else name
  | rust =>
    let name := Naming.snake key
    if name ∈ rustNeverRaw then name ++ "_"
    else if name ∈ rustReserved then "r#" ++ name
    else name

/-- The text without the raw marks at its beginning. -/
def dropRawMarks : List Char → List Char
  | 'r' :: '#' :: rest => dropRawMarks rest
  | cs => cs

/-- The property name without raw marks. -/
def withoutRawMark (name : String) : String := String.ofList (dropRawMarks name.toList)

/-- The mark on both sides of a reserved word in Swift and Kotlin. -/
def isBackquote (c : Char) : Bool := c = '\x60'

/-- The property name without the marks that escape a reserved word. -/
def bareName (name : String) : String :=
  String.ofList (Text.dropEndWhile isBackquote ((dropRawMarks name.toList).dropWhile isBackquote))

end PayloadModels.Target
