/-!
# Paths

A `Path` is a text in which slashes separate pieces. What a path means is its list of parts
(`Path.parts`): an empty piece counts for nothing, and neither does a single dot, save at the
beginning of a relative path. Two paths are the same, and one comes before another, by their
parts; a path is shown by its text.
-/

namespace PayloadModels

/-- A part of a path. The order of the parts is that of the constructors, and names are compared
as texts. -/
inductive Path.Part where
  /-- The root of all directories. -/
  | root
  /-- The directory that the path begins at. -/
  | here
  /-- The directory above. -/
  | up
  | name (text : String)
  deriving DecidableEq, Repr, Ord

/-- A path to a file or a directory. -/
structure Path where
  text : String
  deriving DecidableEq, Repr, Inhabited

namespace Path

/-- The texts between the slashes of a path. -/
def pieces (path : Path) : List String := (path.text.toList.splitOn '/').map String.ofList

/-- Whether the path begins at the root. -/
def isAbsolute (path : Path) : Bool := path.text.toList.head? = some '/'

/-- The part that a piece of a path stands for, if it counts. -/
def Part.ofPiece? (piece : String) : Option Part :=
  match piece with
  | "" | "." => none
  | ".." => some up
  | text => some (.name text)

/-- The part that the beginning of a path stands for, if it stands for one. -/
def start? (path : Path) : Option Part :=
  if path.isAbsolute then some .root
  else if path.pieces.head? = some "." then some .here
  else none

/-- The parts of a path. -/
def parts (path : Path) : List Part := path.start?.toList ++ path.pieces.filterMap Part.ofPiece?

/-- Whether two paths have the same parts. -/
def same (a b : Path) : Bool := a.parts = b.parts

/-- Whether a path comes before another or has the same parts. -/
def le (a b : Path) : Bool := (compare a.parts b.parts).isLE

/-- The paths in order. -/
def sort (paths : List Path) : List Path := paths.mergeSort le

/-- The path from `base` along another: that one itself when it is absolute. -/
def join (base : Path) (other : Path) : Path :=
  if other.isAbsolute || base.text.isEmpty then other
  else if base.text.toList.getLast? = some '/' then ⟨base.text ++ other.text⟩
  else ⟨base.text ++ "/" ++ other.text⟩

/-- The path to something below `base`, through names. -/
def below (base : Path) (names : List String) : Path :=
  names.foldl (fun path name => path.join ⟨name⟩) base

/-- The path from the root through names. -/
def ofNames (names : List String) : Path := ⟨"/" ++ "/".intercalate names⟩

/-- The name that the path ends with, if it ends with one. -/
def fileName? (path : Path) : Option String :=
  match path.parts.getLast? with
  | some (.name text) => some text
  | _ => none

/-- The extension of a name, which follows its last dot. A name whose only dot is its first
character has none. -/
def extensionOf? (name : String) : Option String :=
  match (name.toList.splitOn '.').reverse with
  | last :: front =>
    if front = [] ∨ front = [[]] then none else some (String.ofList last)
  | [] => none

/-- The extension of the path's name. -/
def extension? (path : Path) : Option String := path.fileName?.bind extensionOf?

/-- Whether a piece of a path counts for nothing. -/
def isVoid (piece : String) : Bool := (Part.ofPiece? piece).isNone

/-- The pieces without the void ones at both ends, as a text. -/
def trimPieces (pieces : List String) : String :=
  "/".intercalate ((pieces.dropWhile isVoid).reverse.dropWhile isVoid).reverse

/-- The pieces that follow so many parts. -/
def dropParts : Nat → List String → List String
  | 0, pieces => pieces
  | _ + 1, [] => []
  | n + 1, piece :: pieces =>
    if isVoid piece then dropParts (n + 1) pieces else dropParts n pieces

/-- The text of what follows `base` in a path, when the path's parts begin with those of
`base`. -/
def after? (base path : Path) : Option String :=
  if base.parts.isPrefixOf path.parts then
    let named := base.parts.length - base.start?.toList.length
    some (trimPieces (dropParts named path.pieces))
  else
    none

/-- The path without its last part, if it has one that can be left out. -/
def parent? (path : Path) : Option Path :=
  match path.parts.getLast? with
  | none | some .root => none
  | some _ =>
    let front := ((path.pieces.reverse.dropWhile isVoid).drop 1).dropWhile isVoid
    if front.isEmpty then
      match path.parts.dropLast with
      | [.root] => some ⟨"/"⟩
      | [.here] => some ⟨"."⟩
      | _ => some ⟨""⟩
    else
      some ⟨"/".intercalate front.reverse⟩

end Path

end PayloadModels
