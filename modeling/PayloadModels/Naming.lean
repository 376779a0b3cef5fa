import PayloadModels.Unicode.Alphabetic
import PayloadModels.Unicode.Basic
import PayloadModels.Unicode.CaseMapping

/-!
# Names from payload keys

A payload key is cut into words (`words`) and the words are joined in the casing that the target
asks for: `lowerCamel`, `upperCamel` or `snake`. A separator ends a word, and a capital begins
one when it follows a small letter or a digit, or when it is the last capital of an acronym.
-/

namespace PayloadModels.Naming

open Unicode

/-- A character that words are made of; every other character separates words. -/
def isWordChar (c : Char) : Bool := isAlphabetic c || isNumeric c

/-- Whether `c` begins a new word, where `pending` is the word so far, last character first, and
`rest` is what follows `c`. -/
def opensWord : List Char → Char → List Char → Bool
  | [], _, _ => false
  | last :: _, c, rest =>
    isUppercase c &&
      (isLowercase last || last.isDigit || isUppercase last && rest.head?.any isLowercase)

/-- The word that is pending, if it has a character. -/
def finished (pending : List Char) : List (List Char) :=
  if pending.isEmpty then [] else [pending.reverse]

/-- The words of a text that goes on from the word `pending`, last character first. -/
def wordsFrom : List Char → List Char → List (List Char)
  | pending, [] => finished pending
  | pending, c :: rest =>
    if !isWordChar c then finished pending ++ wordsFrom [] rest
    else if opensWord pending c rest then pending.reverse :: wordsFrom [c] rest
    else wordsFrom (c :: pending) rest

/-- The words of a payload key. -/
def words (key : String) : List String := (wordsFrom [] key.toList).map String.ofList

/-- The word with its first character in upper case and the others as they are. -/
def capitalize (word : String) : String :=
  match word.toList with
  | [] => ""
  | c :: cs => String.ofList (upper c ++ cs)

/-- The name made fit to be an identifier: `value` stands for the empty name, and an underscore
goes before a leading digit. -/
def identifier (name : String) : String :=
  match name.toList with
  | [] => "value"
  | c :: _ => if c.isDigit then "_" ++ name else name

/-- The words in upper camel case, joined as they are. -/
def joinCapitalized (ws : List String) : String := String.join (ws.map capitalize)

/-- The key in lower camel case: `product_id` becomes `productId`. -/
def lowerCamel (key : String) : String :=
  match words key with
  | [] => identifier ""
  | first :: others => identifier (lowercase first ++ joinCapitalized others)

/-- The key in upper camel case: `pricing_detail` becomes `PricingDetail`. -/
def upperCamel (key : String) : String := identifier (joinCapitalized (words key))

/-- The key in snake case: `productId` becomes `product_id`. -/
def snake (key : String) : String := identifier ("_".intercalate ((words key).map lowercase))

end PayloadModels.Naming
