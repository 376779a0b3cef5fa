import PayloadModels.Header.Epoch
import PayloadModels.Target.Basic

/-!
# The header of a file

Every generated file begins with a comment that says what the file is called, which project it
belongs to and who generated it when (`Imprint.header`), followed by the mark of generated files.
The lines that carry the date are recognised again by `isDated`, so that a file whose header
differs from a new one in its dates only counts as the same.
-/

namespace PayloadModels

/-- The text in the header of every generated file. -/
def generatedMark : String := "Auto-Generated using modelsync"

/-- The comment that keeps a line which was edited by hand. -/
def handEditMark : String := "modelsync:custom"

/-- What a generated file says about itself. -/
structure Imprint where
  project : String
  author : Option String
  company : Option String
  /-- The package that the models belong to, for languages that have packages. -/
  package : Option String
  date : Date
  deriving DecidableEq, Repr, Inhabited

namespace Imprint

/-- The line that says who created the file when. -/
def creation (imprint : Imprint) (comment : String) : String :=
  match imprint.author with
  | some author => comment ++ "  Created by " ++ author ++ " on " ++ imprint.date.short ++ "."
  | none => comment ++ "  Created on " ++ imprint.date.short ++ "."

/-- The line that names the owner of the rights, when there is one. -/
def copyright (imprint : Imprint) (comment : String) : List String :=
  match imprint.company with
  | some company =>
    [comment ++ "  Copyright © " ++ imprint.date.yearText ++ " " ++ company
      ++ ". All rights reserved."]
  | none => []

/-- The comment at the top of a file, which ends with a line feed. -/
def header (imprint : Imprint) (fileName comment : String) : String :=
  Text.unlines <|
    [comment, comment ++ "  " ++ fileName, comment ++ "  " ++ imprint.project, comment,
      imprint.creation comment]
    ++ imprint.copyright comment
    ++ [comment, "", "/*", "    " ++ generatedMark, "*/", ""]

end Imprint

/-- Whether a line is one of those that carry the date of a header. -/
def isDated (line : String) : Bool :=
  let text := line.toList.dropWhile fun c => c = '/' || c = '#' || Unicode.isBlank c
  Text.startsWith "Created by " text || Text.startsWith "Created on " text
    || Text.startsWith "Copyright ©" text

end PayloadModels
