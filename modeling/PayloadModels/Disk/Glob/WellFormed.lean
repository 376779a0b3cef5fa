import PayloadModels.Disk.Glob

/-!
# Well-formed patterns

Not every sequence of elements is a pattern (`Glob.isWellFormed`). Two elements that begin a piece
of a path may not meet, nor may two that stand for any characters. What meets what is told level by
level (`Level`): the elements of all groups at one depth that are branches of one number stand
beside each other, as far as no other branch comes between. Neither may a pattern be too large.
-/

namespace PayloadModels.Glob

/-! ## Elements by levels -/

/-- Where an element stands among groups. -/
structure Level where
  /-- How many groups it is in. -/
  depth : Nat
  /-- The number of the branch that it is in, if its group has branches. -/
  branch : Option Nat
  deriving DecidableEq, Repr

/-- The elements in the groups of an element. -/
def Element.parts (level : Level) : Element → List (Level × Element)
  | .oneOf branches =>
    branches.zipIdx.flatMap fun (branch, i) => branch.map (⟨level.depth + 1, some i⟩, ·)
  | .repeated body _ _ => body.map (⟨level.depth + 1, none⟩, ·)
  | _ => []

mutual

/-- How many groups there are inside each other. -/
def Element.depth : Element → Nat
  | .oneOf branches => branchesDepth branches + 1
  | .repeated body _ _ => bodyDepth body + 1
  | _ => 0

/-- How many groups there are inside each other among elements. -/
def bodyDepth : List Element → Nat
  | [] => 0
  | element :: elements => max element.depth (bodyDepth elements)

/-- How many groups there are inside each other in several patterns. -/
def branchesDepth : List (List Element) → Nat
  | [] => 0
  | branch :: branches => max (bodyDepth branch) (branchesDepth branches)

end

/-- The elements of `depth` levels below some, each level after the one above it. -/
def levels : (depth : Nat) → List (Level × Element) → List (Level × Element)
  | 0, elements => elements
  | depth + 1, elements =>
    elements ++ levels depth (elements.flatMap fun (level, element) => element.parts level)

/-- The elements of a pattern that stand beside each other. -/
def runs (glob : Glob) : List (List Element) :=
  let all := levels (bodyDepth glob) (glob.map (⟨0, none⟩, ·))
  (all.splitBy fun a b => a.1 = b.1).map fun run => run.map (·.2)

/-! ## What may meet -/

/-- Whether an element begins a new piece of a path. -/
def Element.isBoundary : Element → Bool
  | .slash | .tree _ => true
  | _ => false

/-- Whether an element stands for any characters of a name. -/
def Element.isMany : Element → Bool
  | .many => true
  | _ => false

/-- Whether an element begins a path at its root. -/
def Element.isRoot : Element → Bool
  | .slash | .tree true => true
  | _ => false

/-- Whether an element or one that may begin it satisfies `p`. -/
def Element.startsWith (p : Element → Bool) (element : Element) : Bool :=
  (runs [element]).any fun run => run.head?.any p

/-- Whether an element or one that may end it satisfies `p`. -/
def Element.endsWith (p : Element → Bool) (element : Element) : Bool :=
  (runs [element]).any fun run => run.getLast?.any p

/-- Whether a group may hold some elements, between the elements before and after it. -/
def fitsBetween (before after : Option Element) (body : List Element) : Bool :=
  let first := fun p => body.head?.any p
  let last := fun p => body.getLast?.any p
  !(first Element.isBoundary && before.any (·.endsWith Element.isBoundary))
    && !(last Element.isBoundary && after.any (·.startsWith Element.isBoundary))
    && !(first Element.isMany && before.any (·.endsWith Element.isMany))
    && !(last Element.isMany && after.any (·.startsWith Element.isMany))
    && (match body with
      | [.tree _] => false
      | _ => true)

/-- Whether elements may stand after themselves. -/
def fitsItself (body : List Element) : Bool :=
  let meets := fun p => body.head?.any p && body.getLast?.any p
  !(meets Element.isBoundary || meets Element.isMany)

mutual

/-- Whether the groups of an element fit between the elements before and after it. A pattern may
not begin with a group that may be a root. -/
def Element.fits (before after : Option Element) : Element → Bool
  | .oneOf branches => branchesFit before after branches
  | .repeated body least _ =>
    fitsBetween before after body && fitsItself body
      && !(before.isNone && least = 0 && body.head?.any Element.isRoot)
      && bodyFits before after body
  | _ => true

/-- Whether the groups among elements fit. -/
def bodyFits (before after : Option Element) : List Element → Bool
  | [] => true
  | element :: elements =>
    element.fits before (elements.head? <|> after) && bodyFits (some element) after elements

/-- Whether several patterns fit between the elements before and after them. -/
def branchesFit (before after : Option Element) : List (List Element) → Bool
  | [] => true
  | branch :: branches =>
    fitsBetween before after branch
      && !(before.isNone && branch.head?.any Element.isRoot)
      && bodyFits before after branch
      && branchesFit before after branches

end

/-- Whether no two elements that stand beside each other are both boundaries. -/
def isApart (run : List Element) : Bool :=
  (run.zip run.tail).all fun (a, b) => !(a.isBoundary && b.isBoundary)

/-! ## Size -/

/-- Whether a group may be repeated so often. -/
def Element.isBounded : Element → Bool
  | .repeated _ least most => most.all fun most => least ≤ most && 0 < most
  | _ => true

/-- Whether a character is written in two cases. -/
def hasCase (c : Char) : Bool := Unicode.isUppercase c != Unicode.isLowercase c

/-- The sum of two lengths, if both are fixed. -/
def addLengths (a b : Option Nat) : Option Nat := do return (← a) + (← b)

/-- The length of all, if they are the same. -/
def commonLength : List (Option Nat) → Option Nat
  | [] => none
  | length :: lengths => if lengths.all (· = length) then length else none

mutual

/-- The length in octets of what an element stands for, if it is fixed. -/
def Element.length? : Element → Option Nat
  | .character c anyCase => if anyCase && hasCase c then none else some c.utf8Size
  | .slash => some 1
  | .inClass negated ranges =>
    if negated || ranges.any (fun range => range.first ≠ range.last) then none
    else commonLength (ranges.map fun range => some range.first.utf8Size)
  | .one | .many | .tree _ => none
  | .oneOf branches => commonLength (branchLengths branches)
  | .repeated body least most =>
    if most = some least then (bodyLength? body).map (· * least) else none

/-- The length of what elements stand for, if it is fixed. -/
def bodyLength? : List Element → Option Nat
  | [] => some 0
  | element :: elements => addLengths element.length? (bodyLength? elements)

/-- The length of what each of several patterns stands for, if it is fixed. -/
def branchLengths : List (List Element) → List (Option Nat)
  | [] => []
  | branch :: branches => bodyLength? branch :: branchLengths branches

end

/-- The greatest length that paths have. -/
def lengthLimit : Nat := 65536

mutual

/-- How much room an element takes when it is compiled, in octets: as much as an automaton that
reads the octets of a path backwards. -/
def Element.room : Element → Nat
  | .character c _ => 32 * c.utf8Size
  | .slash => 32
  | .one => 1000
  | .many => 1040
  | .tree _ => 1200
  | .inClass negated ranges => if negated then 1000 else 64 + 40 * ranges.length
  | .oneOf branches => 64 + branchesRoom branches
  | .repeated body least most =>
    bodyRoom body * least + most.elim (bodyRoom body) fun most =>
      (bodyRoom body + 40) * (most - least)

/-- How much room elements take. -/
def bodyRoom : List Element → Nat
  | [] => 0
  | element :: elements => element.room + bodyRoom elements

/-- How much room several patterns take. -/
def branchesRoom : List (List Element) → Nat
  | [] => 0
  | branch :: branches => bodyRoom branch + 4 + branchesRoom branches

end

/-- The room that a pattern may take. -/
def roomLimit : Nat := 10485760

/-- Whether a pattern is one that paths can be matched against. -/
def isWellFormed (glob : Glob) : Bool :=
  (runs glob).all isApart
    && bodyFits none none glob
    && (runs glob).all (fun run => run.all fun element =>
      element.isBounded && element.length?.all (· < lengthLimit))
    && bodyRoom glob ≤ roomLimit

end PayloadModels.Glob
