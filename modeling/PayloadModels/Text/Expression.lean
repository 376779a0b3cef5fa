/-!
# Regular expressions

An expression says which texts are meant. `Expression.isMatch` asks it for the places of a text
that its beginning may reach from others (`Expression.reach`), all at once: so an expression with
many ways to match takes no longer than one with a single way, and the definition is a plain
recursion on the expression.
-/

namespace PayloadModels

/-- A regular expression. -/
inductive Expression where
  /-- The empty text. -/
  | empty
  /-- A character that satisfies `p`. -/
  | one (p : Char → Bool)
  /-- Any number of characters that satisfy `p`. -/
  | many (p : Char → Bool)
  | followedBy (first second : Expression)
  | either (left right : Expression)
  /-- A text `least` times or more, `most` times if there is a bound. -/
  | repeated (body : Expression) (least : Nat) (most : Option Nat)

namespace Expression

/-- What matches no text. -/
def never : Expression := one fun _ => false

/-- The character and no other. -/
def exactly (c : Char) : Expression := one (· = c)

/-- What may be missing. -/
def optional (body : Expression) : Expression := either empty body

/-- Which places of a text are reached: the place before each of its characters, and its end. -/
abbrev Places := List Bool

namespace Places

/-- The beginning of a text. -/
def start (text : List Char) : Places := true :: text.map fun _ => false

/-- The places that one of two reaches. -/
def union (left right : Places) : Places := List.zipWith (· || ·) left right

/-- The places one character after those reached, if the character satisfies `p`. -/
def step (p : Char → Bool) (text : List Char) (places : Places) : Places :=
  false :: List.zipWith (fun c reached => reached && p c) text places

/-- The places reached and those any number of characters after them, if all these satisfy `p`.
`carried` tells whether the characters before reach the first place. -/
def spread (p : Char → Bool) (carried : Bool) : List Char → Places → Places
  | c :: cs, reached :: places =>
    (reached || carried) :: spread p ((reached || carried) && p c) cs places
  | [], reached :: _ => [reached || carried]
  | _, [] => []

/-- The places after `count` steps. Steps that change nothing are left out. -/
def iterate (step : Places → Places) : Nat → Places → Places
  | 0, places => places
  | count + 1, places =>
    let next := step places
    if next = places then places else iterate step count next

/-- The places that `count` steps or fewer reach from `start`. Steps that reach nothing new are left
out. -/
def closure (step : Places → Places) (start : Places) : Nat → Places → Places
  | 0, places => places
  | count + 1, places =>
    let next := start.union (step places)
    if next = places then places else closure step start count next

end Places

/-- The places of a text that are reached after the expression has matched from those reached
before it. -/
def reach (text : List Char) : Expression → Places → Places
  | empty, places => places
  | one p, places => places.step p text
  | many p, places => places.spread p false text
  | followedBy first second, places => reach text second (reach text first places)
  | either left right, places => (reach text left places).union (reach text right places)
  | repeated body least most, places =>
    let start := Places.iterate (reach text body) least places
    let more := most.elim (text.length + 1) (· - least)
    Places.closure (reach text body) start more start

/-- Whether an expression means a whole text. -/
def isMatch (expression : Expression) (text : String) : Bool :=
  let cs := text.toList
  (expression.reach cs (Places.start cs)).getLast? = some true

end Expression

end PayloadModels
