import PayloadModels.Header.Imprint
import PayloadModels.Target.PropertyText

/-!
# The text around the properties

What a target writes for a model beside its properties: the name of the file, the imports, the
beginning and the end of the declaration, and the mapping from property names to payload keys
where the target keeps it apart.
-/

namespace PayloadModels.Target

/-- The name of the file that a model is written to. -/
def fileName (target : Target) (model : String) : String :=
  match target with
  | rust => Naming.snake model ++ ".rs"
  | _ => model ++ "." ++ target.extension

/-- The models that properties mention, other than their own, sorted and once each. -/
def mentionedModels (model : String) (properties : List Property) : List String :=
  let names := properties.filterMap (·.type.modelName?)
  ((names.filter (· ≠ model)).mergeSort (· ≤ ·)).eraseReps

/-- The Kotlin package and the import that renamed keys need, with a blank line between them. -/
def kotlinImports (properties : List Property) (imprint : Imprint) : Option String :=
  let package := imprint.package.toList.map fun name => "package " ++ name ++ "\n"
  let annotation :=
    if properties.any isRenamed then ["import com.google.gson.annotations.SerializedName\n"]
    else []
  match package ++ annotation with
  | [] => none
  | imports => some (Text.unlines imports)

/-- The lines between the header and the declaration, if there are any. -/
def imports (target : Target) (model : String) (properties : List Property) (imprint : Imprint) :
    Option String :=
  let mentioned := mentionedModels model properties
  match target with
  | swift => some "import Foundation\n"
  | kotlin => kotlinImports properties imprint
  | objcSource =>
    some (Text.unlines ((model :: mentioned).map fun name => "#import \"" ++ name ++ ".h\"")
      ++ "\n")
  | objcHeader =>
    let forward :=
      if mentioned.isEmpty then "" else "\n@class " ++ ", ".intercalate mentioned ++ ";\n"
    some ("#import <Foundation/Foundation.h>\n" ++ forward)
  | rust =>
    let uses := mentioned.map fun name =>
      "use super::" ++ Naming.snake name ++ "::" ++ name ++ ";"
    let gap := if uses.isEmpty then [] else [""]
    some (Text.unlines ("use serde::\x7bDeserialize, Serialize\x7d;" :: gap ++ uses) ++ "\n")

/-- The Objective-C method that makes a model from a payload. -/
def objcInitializer : String := "- (id)initWithDictionary:(NSDictionary *)dictionary"

/-- The lines that open the declaration of a model. -/
def opening (target : Target) (model : String) : String :=
  match target with
  | swift => "struct " ++ model ++ ": Codable \x7b"
  | kotlin => "data class " ++ model ++ "("
  | objcSource =>
    Text.unlines
      ["@implementation " ++ model, "", objcInitializer ++ " \x7b", "    self = [super init];",
       "    if (self) \x7b"]
  | objcHeader => "@interface " ++ model ++ ": NSObject"
  | rust =>
    Text.unlines
      ["#[derive(Debug, Clone, PartialEq, Serialize, Deserialize)]",
       "pub struct " ++ model ++ " \x7b"]

/-- The lines that close the declaration of a model. -/
def closing : Target → String
  | swift | rust => "\x7d"
  | kotlin => ")"
  | objcSource => Text.unlines ["    \x7d", "    return self;", "\x7d", "", "@end"]
  | objcHeader => Text.unlines ["", objcInitializer ++ ";", "", "@end"]

/-- The Swift case that ties a property to its payload key. -/
def swiftCase (property : Property) : String :=
  let key := if isRenamed property then " = " ++ Literal.quote property.key else ""
  "        case " ++ property.name ++ key

/-- The Swift enumeration of payload keys, which is written when some key differs from its
property's name. -/
def keyMapping (target : Target) (properties : List Property) : Option String :=
  match target with
  | swift =>
    if properties.any isRenamed then
      let sorted := properties.mergeSort fun a b => a.name ≤ b.name
      some <| Text.unlines <|
        ["", "    enum CodingKeys: String, CodingKey \x7b"] ++ sorted.map swiftCase ++ ["    \x7d"]
    else
      none
  | _ => none

end PayloadModels.Target
