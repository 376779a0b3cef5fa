import PayloadModels.Target.Declaration

/-!
# Rendering a model

A model's file is its header, its imports, the opening of its declaration, its properties sorted
by their keys, the mapping of payload keys and the closing, one after another (`render`). A
property whose line was edited by hand keeps that line. Of two properties with one name, the
first is written.
-/

namespace PayloadModels

/-- The properties without those whose name an earlier one has. -/
def distinctNames : List Property → List Property
  | [] => []
  | p :: ps => p :: (distinctNames ps).filter (·.name ≠ p.name)

namespace Target

/-- The text of a property, where a line edited by hand stands for the generated one. -/
def keptText (target : Target) (edits : List HandEdit) (property : Property) : String :=
  match HandEdit.find? edits property.name with
  | some edit => target.editedText property edit.line
  | none => target.propertyText property

/-- The order of two pairs of a sort key and a text: by key and then by text. -/
def textOrder (a b : String × String) : Bool := a.1 < b.1 || (a.1 = b.1 && a.2 ≤ b.2)

/-- The texts of a model's properties, in order. -/
def body (target : Target) (properties : List Property) (edits : List HandEdit) : List String :=
  let texts := properties.map fun p => (target.sortKey p, target.keptText edits p)
  (texts.mergeSort textOrder).map (·.2)

/-- The file of a model. -/
def render (target : Target) (model : String) (properties : List Property)
    (edits : List HandEdit) (imprint : Imprint) : String :=
  let properties := distinctNames properties
  Text.unlines <|
    [imprint.header (target.fileName model) target.lineComment]
    ++ (target.imports model properties imprint).toList
    ++ [target.opening model]
    ++ target.body properties edits
    ++ (target.keyMapping properties).toList
    ++ [target.closing]

end Target

end PayloadModels
