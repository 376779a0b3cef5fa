import PayloadModels.Schema.Property
import PayloadModels.Target.Basic
import PayloadModels.Target.Spelling

/-!
# Properties as text

The lines of a generated file that declare properties: how a payload key is quoted in them, what
each target writes for a property, and which property a line of an existing file declares.
-/

namespace PayloadModels.Literal

/-!
## String literals

A payload key that is written between double quotes is escaped, so that the quotes end where the
key does. `dollarsEscaped` goes on where a dollar sign, too, has a meaning inside quotes.
-/

/-- A character as it stands between double quotes. -/
def escapeChar : Char → List Char
  | '"' => ['\\', '"']
  | '\\' => ['\\', '\\']
  | '\n' => ['\\', 'n']
  | '\r' => ['\\', 'r']
  | '\t' => ['\\', 't']
  | c => [c]

/-- A key as it stands between double quotes. -/
def escape (key : String) : String := String.ofList (key.toList.flatMap escapeChar)

/-- The text with a backslash before each dollar sign. -/
def dollarsEscaped (text : String) : String :=
  String.ofList (text.toList.flatMap fun c => if c = '$' then ['\\', '$'] else [c])

/-- A key as a double-quoted literal. -/
def quote (key : String) : String := "\"" ++ escape key ++ "\""

end PayloadModels.Literal

namespace PayloadModels.Target

/-!
## The text of a property

What a target writes for one property (`propertyText`), what it writes when the property's line
was edited by hand (`editedText`), and the key that its properties are sorted by (`sortKey`).
-/

/-- Whether decoding needs to be told the payload key, because the property's name differs from
it. -/
def isRenamed (property : Property) : Bool := bareName property.name ≠ property.key

/-- A Kotlin constructor parameter, after the annotation that names its payload key when that
differs. -/
def kotlinParameter (property : Property) : String :=
  let annotation :=
    if isRenamed property then
      "@SerializedName(\"" ++ Literal.dollarsEscaped (Literal.escape property.key) ++ "\") "
    else ""
  let type := kotlinType property.type
  let declared := if property.isOptional then type ++ "? = null" else type
  "    " ++ annotation ++ "val " ++ property.name ++ ": " ++ declared ++ ","

/-- The Objective-C expression that reads a payload key. -/
def objcPayload (key : String) : String := "dictionary[@" ++ Literal.quote key ++ "]"

/-- The Objective-C expression that makes a property's value from its payload key. -/
def objcValue (type : PropertyType) (key : String) : String :=
  let raw := objcPayload key
  match type with
  | .bool => "[" ++ raw ++ " boolValue]"
  | .int => "[" ++ raw ++ " integerValue]"
  | .double => "[" ++ raw ++ " doubleValue]"
  | .object model =>
    "[" ++ raw ++ " isKindOfClass:[NSDictionary class]] ? [[" ++ model
      ++ " alloc] initWithDictionary:" ++ raw ++ "] : nil"
  | .unknown | .string | .array _ => raw

/-- The Objective-C statements that set a property from the payload: a loop for a list of
models, else one assignment. -/
def objcAssignment (property : Property) : String :=
  let name := property.name
  match property.type with
  | .array (.object model) =>
    Text.unlines
      ["        NSMutableArray *" ++ name ++ "Items = [NSMutableArray array];",
       "        for (NSDictionary *item in " ++ objcPayload property.key ++ ") \x7b",
       "            [" ++ name ++ "Items addObject:[[" ++ model
         ++ " alloc] initWithDictionary:item]];",
       "        \x7d",
       "        _" ++ name ++ " = " ++ name ++ "Items;"]
  | type => "        _" ++ name ++ " = " ++ objcValue type property.key ++ ";"

/-- The attributes of an Objective-C property: a scalar is assigned, an object is kept alive and
may be absent. -/
def objcAttributes (property : Property) : String :=
  if property.type.isScalar then "nonatomic, assign"
  else if property.isOptional then "nonatomic, strong, nullable"
  else "nonatomic, strong"

/-- The Objective-C declaration of a property, with a blank line above it. -/
def objcDeclaration (property : Property) : String :=
  let type := objcType property.type
  let space := if type.toList.getLast? = some '*' then "" else " "
  "\n@property (" ++ objcAttributes property ++ ") " ++ type ++ space ++ property.name ++ ";"

/-- A Rust field under the attribute that decoding it needs: its payload key when that differs
from its name, and a default when it may be absent. -/
def withDecodingAttribute (property : Property) (field : String) : String :=
  let rename :=
    if withoutRawMark property.name = property.key then []
    else ["rename = " ++ Literal.quote property.key]
  let default := if property.isOptional then ["default"] else []
  match rename ++ default with
  | [] => field
  | attributes => "    #[serde(" ++ ", ".intercalate attributes ++ ")]\n" ++ field

/-- What the target writes for a property. -/
def propertyText (target : Target) (property : Property) : String :=
  match target with
  | swift =>
    "    let " ++ property.name ++ ": " ++ swiftType property.type
      ++ (if property.isOptional then "?" else "")
  | kotlin => kotlinParameter property
  | objcSource => objcAssignment property
  | objcHeader => objcDeclaration property
  | rust =>
    let type := rustType property.type
    withDecodingAttribute property
      ("    pub " ++ property.name ++ ": "
        ++ (if property.isOptional then "Option<" ++ type ++ ">" else type) ++ ",")

/-- What the target writes for a property whose line was edited by hand. -/
def editedText (target : Target) (property : Property) (line : String) : String :=
  match target with
  | swift | kotlin | objcSource => line
  | objcHeader => "\n" ++ line
  | rust => withDecodingAttribute property line

/-- The key that the properties of a model are sorted by. -/
def sortKey (target : Target) (property : Property) : String :=
  match target with
  | swift | objcHeader => propertyText target property
  | kotlin | rust => bareName property.name
  | objcSource => property.name

/-!
## Reading a property back

Which property a line of an existing file declares (`declared?`), if it declares one. Only the
name is read: the rest of the line belongs to whoever edited it.
-/

/-- What stands before the first `mark`, without blanks around it. -/
def nameBefore? (mark : Char) (text : List Char) : Option String :=
  (Text.cutAt [mark] text).map fun (name, _) => String.ofList (Text.trim name)

/-- The last piece of a text that blanks and stars separate. -/
def lastPiece (text : List Char) : List Char :=
  (text.reverse.takeWhile fun c => !(Unicode.isBlank c || c = '*')).reverse

/-- The property that an Objective-C header's line declares. -/
def objcDeclared? (line : List Char) : Option String :=
  let line := Text.trim line
  if Text.startsWith "@property" line then
    (Text.cutAt [';'] line).bind fun (declaration, _) =>
      match lastPiece declaration with
      | [] => none
      | name => some (String.ofList name)
  else
    none

/-- The property that a line declares. -/
def declared? (target : Target) (line : String) : Option String :=
  let cs := line.toList
  match target with
  | swift =>
    let cs := Text.trimStart cs
    (Text.after? "let " cs <|> Text.after? "var " cs).bind (nameBefore? ':')
  | kotlin =>
    (Text.cutAt "val ".toList cs <|> Text.cutAt "var ".toList cs).bind fun (_, rest) =>
      nameBefore? ':' rest
  | objcSource => (Text.after? "_" (Text.trimStart cs)).bind (nameBefore? '=')
  | objcHeader => objcDeclared? cs
  | rust => (Text.after? "pub " (Text.trimStart cs)).bind (nameBefore? ':')

end PayloadModels.Target
