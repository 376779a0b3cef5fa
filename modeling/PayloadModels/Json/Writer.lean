import PayloadModels.Decimal.Shortest
import PayloadModels.Json.Basic

/-!
# Writing JSON

The compact text of a JSON value. A number with a fraction has the fewest digits that read back,
written in place from `0.00001` to below `10^16` and with an exponent beyond, and always
shows that it is no integer. Infinite numbers have no text of their own and are written as
`null`.
-/

namespace PayloadModels.Json

/-- A decimal digit of a hexadecimal number, in lower case. -/
def hexDigit (n : Nat) : Char := "0123456789abcdef".toList.getD n '0'

/-- A character as it stands inside a JSON string. -/
def escapeChar (c : Char) : List Char :=
  match c with
  | '"' => ['\\', '"']
  | '\\' => ['\\', '\\']
  | '\x08' => ['\\', 'b']
  | '\x0c' => ['\\', 'f']
  | '\n' => ['\\', 'n']
  | '\r' => ['\\', 'r']
  | '\t' => ['\\', 't']
  | c =>
    if c.toNat < 0x20 then
      ['\\', 'u', '0', '0', hexDigit (c.toNat / 16), hexDigit (c.toNat % 16)]
    else
      [c]

/-- A string between its quotes. -/
def quote (s : String) : String := "\"" ++ String.ofList (s.toList.flatMap escapeChar) ++ "\""

/-- The digits of a decimal without the zeros at its end, and the place of the point after its
first digit. -/
def pointedDigits (d : Binary64.Decimal) : List Char × Int :=
  let digits := Nat.toDigits 10 d.digits
  ((digits.reverse.dropWhile (· = '0')).reverse, digits.length + d.exponent)

/-- The text of a decimal whose point stands after `point` of its digits. -/
def layOut (digits : List Char) (point : Int) : List Char :=
  if point ≤ -5 ∨ 16 < point then
    let fraction := digits.drop 1
    digits.take 1 ++ (if fraction.isEmpty then [] else '.' :: fraction)
      ++ ('e' :: (if point ≤ 0 then '-' else '+') :: Nat.toDigits 10 (point - 1).natAbs)
  else if point ≤ 0 then
    '0' :: '.' :: List.replicate (-point).toNat '0' ++ digits
  else
    let whole := digits.take point.toNat
    let fraction := digits.drop point.toNat
    whole ++ List.replicate (point.toNat - whole.length) '0'
      ++ '.' :: (if fraction.isEmpty then ['0'] else fraction)

/-- The text of a finite number. -/
def floatText (x : Binary64) : String :=
  let (digits, point) := pointedDigits x.shortest
  let text := if x.isZero then ['0', '.', '0'] else layOut digits point
  String.ofList (if x.isNegative then '-' :: text else text)

/-- The text of a number. -/
def Number.text : Number → String
  | .int n => toString n
  | .float x => if x.isFinite then floatText x else "null"

mutual

/-- The compact text of a value. -/
def text : Json → String
  | null => "null"
  | bool b => if b then "true" else "false"
  | num n => n.text
  | str s => quote s
  | arr items => "[" ++ ",".intercalate (itemTexts items) ++ "]"
  | obj members => "\x7b" ++ ",".intercalate (memberTexts members) ++ "\x7d"

/-- The texts of the items of an array. -/
def itemTexts : List Json → List String
  | [] => []
  | item :: items => text item :: itemTexts items

/-- The texts of the members of an object. -/
def memberTexts : List (String × Json) → List String
  | [] => []
  | (key, value) :: members => (quote key ++ ":" ++ text value) :: memberTexts members

end

end PayloadModels.Json
