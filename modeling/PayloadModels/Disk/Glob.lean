import PayloadModels.Text.Expression
import PayloadModels.Unicode.CaseMapping

/-!
# Patterns for paths

A pattern (`Glob`) says which relative paths are meant: `*` stands for any characters of one name
and `?` for one, brackets for one character of a class, braces for one of several patterns, angle
brackets for a pattern several times, and `**` as a whole piece for any number of directories. What
exactly `**` stands for depends on where it is in the pattern (`Place`). `Glob.isMatch` tests a path
by the regular expression that a pattern amounts to (`Glob.expression`).
-/

namespace PayloadModels

/-- A range of characters in a class. -/
structure Glob.Range where
  first : Char
  last : Char
  deriving DecidableEq, Repr

/-- An element of a pattern. -/
inductive Glob.Element where
  /-- A character, or with `anyCase` one that differs from it only in case. -/
  | character (c : Char) (anyCase : Bool)
  /-- Between two pieces of a path. -/
  | slash
  /-- Any one character of a name. -/
  | one
  /-- Any characters of a name. -/
  | many
  /-- One character of a name that is in a class, or that is not. -/
  | inClass (negated : Bool) (ranges : List Range)
  /-- Any number of directories; `rooted` tells whether a slash stands before it. -/
  | tree (rooted : Bool)
  /-- One of several patterns. -/
  | oneOf (branches : List (List Element))
  /-- A pattern `least` times or more, `most` times if there is a bound. -/
  | repeated (body : List Element) (least : Nat) (most : Option Nat)
  deriving Repr

/-- A pattern for relative paths. -/
abbrev Glob := List Glob.Element

namespace Glob

/-- Whether a character is in a range. -/
def Range.holds (range : Range) (c : Char) : Bool := range.first ≤ c && c ≤ range.last

/-- Where an element stands among others. -/
inductive Place where
  | only
  | first
  | middle
  | last
  deriving DecidableEq, Repr

/-- The place of an element with elements before it or not, and after it or not. -/
def Place.of : (before after : Bool) → Place
  | false, false => only
  | false, true => first
  | true, true => middle
  | true, false => last

/-- Whether a character is in a class. With `anyCase` its case does not count. A class that holds a
range with no characters holds none itself, and no class holds the slash. -/
def classHolds (negated : Bool) (ranges : List Range) (anyCase : Bool) (c : Char) : Bool :=
  let inRanges := fun d => ranges.any (·.holds d)
  ranges.all (fun range => range.first ≤ range.last) && c ≠ '/'
    && (if anyCase then (Unicode.variants c).any inRanges else inRanges c) != negated

/-- A character of a name. -/
def inName (c : Char) : Bool := c ≠ '/'

/-- A character of a path that `**` stands for. -/
def inTree (c : Char) : Bool := c ≠ '\n'

/-- Any number of directories at the beginning of a path, from its root if it is `rooted`. -/
def treeAtStart (rooted : Bool) : Expression :=
  let slash := Expression.exactly '/'
  if rooted then .followedBy slash (.followedBy (.many inTree) slash.optional)
  else .either slash.optional (.followedBy (.many inTree) slash)

/-- Any number of directories between two pieces of a path. -/
def treeBetween : Expression :=
  let slash := Expression.exactly '/'
  .either slash (.followedBy slash (.followedBy (.many inTree) slash))

/-- Any number of directories at the end of a path, and what is in them. -/
def treeAtEnd : Expression :=
  let slash := Expression.exactly '/'
  .either slash.optional (.followedBy slash (.many inTree))

/-- What `**` stands for at a place among other elements, in a group at the place `around`. -/
def treeExpression (rooted : Bool) (place : Place) (around : Option Place) : Expression :=
  match place with
  | .only => .many inTree
  | .first =>
    if around = some .middle ∨ around = some .last then treeBetween else treeAtStart rooted
  | .middle => treeBetween
  | .last =>
    if around = some .first ∨ around = some .middle then treeBetween else treeAtEnd

/-- Whether the case of classes counts after an element, if `anyCase` tells it before. A class
follows the character before it. -/
def Element.caseAfter (anyCase : Bool) : Element → Bool
  | .character _ anyCase => anyCase
  | _ => anyCase

mutual

/-- The expression of an element at a place among others, in a group at the place `around`. -/
def Element.expression (place : Place) (around : Option Place) (anyCase : Bool) :
    Element → Expression
  | .character c anyCase =>
    if anyCase then .one fun d => Unicode.fold d = Unicode.fold c else .exactly c
  | .slash => .exactly '/'
  | .one => .one inName
  | .many => .many inName
  | .inClass negated ranges => .one (classHolds negated ranges anyCase)
  | .tree rooted => treeExpression rooted place around
  | .oneOf branches => branchesExpression (around <|> some place) anyCase branches
  | .repeated body least most =>
    .repeated (bodyExpression (around <|> some place) anyCase false body) least most

/-- The expression of elements, after others of their group or not (`before`). -/
def bodyExpression (around : Option Place) (anyCase before : Bool) : List Element → Expression
  | [] => .empty
  | element :: elements =>
    .followedBy (element.expression (.of before !elements.isEmpty) around anyCase)
      (bodyExpression around (element.caseAfter anyCase) true elements)

/-- The expression of one of several patterns. -/
def branchesExpression (around : Option Place) (anyCase : Bool) :
    List (List Element) → Expression
  | [] => .never
  | branch :: branches =>
    .either (bodyExpression around anyCase false branch)
      (branchesExpression around anyCase branches)

end

/-- The expression of a pattern. -/
def expression (glob : Glob) : Expression := bodyExpression none false false glob

/-- Whether a pattern stands for a whole path. -/
def isMatch (glob : Glob) (path : String) : Bool := (expression glob).isMatch path

end Glob

end PayloadModels
