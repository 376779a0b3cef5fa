import PayloadModels.Text
import PayloadModels.Unicode.CaseMapping

/-!
# Languages and targets

A `Language` is what a user asks for; a `Target` is one kind of file that a model is written to
in it. Most languages have one target, Objective-C has two: an implementation file and, as its
companion, a header (`Language.targets`).
-/

namespace PayloadModels

/-- A language that models can be written in. -/
inductive Language where
  | swift
  | kotlin
  | objectiveC
  | rust
  deriving DecidableEq, Repr, Inhabited

/-- A kind of file that a model is written to. -/
inductive Target where
  | swift
  | kotlin
  | objcSource
  | objcHeader
  | rust
  deriving DecidableEq, Repr, Inhabited

namespace Language

/-- Every language, in the order that lists show them. -/
def all : List Language := [swift, kotlin, objectiveC, rust]

/-- The name that configuration files use. -/
def id : Language → String
  | swift => "swift"
  | kotlin => "kotlin"
  | objectiveC => "objc"
  | rust => "rust"

/-- The name that people use. -/
def displayName : Language → String
  | swift => "Swift"
  | kotlin => "Kotlin"
  | objectiveC => "Objective-C"
  | rust => "Rust"

/-- The language of a name or a common abbreviation, in any case and with blanks around it. -/
def ofName? (name : String) : Option Language :=
  match Unicode.lowercase (String.ofList (Text.trim name.toList)) with
  | "swift" => some swift
  | "kotlin" | "kt" => some kotlin
  | "objc" | "objective-c" | "obj-c" | "objectivec" => some objectiveC
  | "rust" | "rs" => some rust
  | _ => none

/-- The target that every model of the language has. -/
def mainTarget : Language → Target
  | swift => .swift
  | kotlin => .kotlin
  | objectiveC => .objcSource
  | rust => .rust

end Language

namespace Target

/-- The extension of the target's files. -/
def extension : Target → String
  | swift => "swift"
  | kotlin => "kt"
  | objcSource => "m"
  | objcHeader => "h"
  | rust => "rs"

/-- What begins a comment that ends with its line. -/
def lineComment : Target → String
  | swift | kotlin | objcSource | objcHeader | rust => "//"

/-- The second target that every file of this one comes with. -/
def companion? : Target → Option Target
  | objcSource => some objcHeader
  | _ => none

end Target

namespace Language

/-- The targets that each model of the language is written to, in order. -/
def targets (language : Language) : List Target :=
  language.mainTarget :: language.mainTarget.companion?.toList

/-- The extensions of the language's files. -/
def extensions (language : Language) : List String := language.targets.map Target.extension

end Language

end PayloadModels
