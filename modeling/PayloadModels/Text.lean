import PayloadModels.Unicode.Basic
import PayloadModels.Unicode.Visible

/-!
# Cutting and joining text

The few operations on characters that reading and writing source text needs: trimming, cutting a
text in two at a mark, lines, and columns of a fixed width. They work on lists of characters, where
they are plain recursions; `String` appears at the ends.

`lines` and `unlines` are each other's inverse on one side: joining the lines of a text gives the
text back (`unlines_lines`).
-/

namespace PayloadModels.Text

/-- The text without the blanks at its beginning. -/
def trimStart (cs : List Char) : List Char := cs.dropWhile Unicode.isBlank

/-- The list without the elements at its end that satisfy `p`. -/
def dropEndWhile (p : Char → Bool) (cs : List Char) : List Char :=
  (cs.reverse.dropWhile p).reverse

/-- The text without the blanks at its end. -/
def trimEnd (cs : List Char) : List Char := dropEndWhile Unicode.isBlank cs

/-- The text without the blanks at both of its ends. -/
def trim (cs : List Char) : List Char := trimEnd (trimStart cs)

/-- What follows `mark` at the beginning of the text, if the text begins with it. -/
def after? (mark : String) (cs : List Char) : Option (List Char) :=
  mark.toList.isPrefixOf? cs

/-- Whether the text begins with `mark`. -/
def startsWith (mark : String) (cs : List Char) : Bool := mark.toList.isPrefixOf cs

/-- Cuts the text at the first place where `mark` stands: what is before it, and what is
after it. -/
def cutAt (mark : List Char) : List Char → Option (List Char × List Char)
  | [] => if mark.isEmpty then some ([], []) else none
  | c :: cs =>
    match mark.isPrefixOf? (c :: cs) with
    | some rest => some ([], rest)
    | none => (cutAt mark cs).map fun (front, rest) => (c :: front, rest)

/-- Whether `mark` stands somewhere in the text. -/
def contains (mark : String) (cs : List Char) : Bool := (cutAt mark.toList cs).isSome

/-- The lines of a text, which line feeds separate: always one more than there are line
feeds. -/
def lines (text : String) : List String := (text.toList.splitOn '\n').map String.ofList

/-- The lines with a line feed between each two of them. -/
def unlines (ls : List String) : String := "\n".intercalate ls

/-- Joining the lines of a text gives the text back. -/
theorem unlines_lines (text : String) : unlines (lines text) = text := by
  apply String.toList_inj.1
  simp [unlines, lines, String.toList_intercalate, List.map_map, Function.comp_def,
    List.intercalate_splitOn]

/-- The text with spaces before it up to a width. -/
def padStart (width : Nat) (text : String) : String :=
  String.ofList (List.replicate (width - text.length) ' ') ++ text

/-- The text with spaces after it up to a width. -/
def padEnd (width : Nat) (text : String) : String :=
  text ++ String.ofList (List.replicate (width - text.length) ' ')

/-!
## Texts in messages

A text that a message quotes is shown so that every character of it can be seen: quotes and
backslashes are escaped, and a character that does not show as itself is written by its code
point.
-/

/-- A character as a quoted text in a message shows it. -/
def showChar (c : Char) : List Char :=
  match c with
  | '"' => ['\\', '"']
  | '\\' => ['\\', '\\']
  | '\x00' => ['\\', '0']
  | '\t' => ['\\', 't']
  | '\r' => ['\\', 'r']
  | '\n' => ['\\', 'n']
  | c =>
    if Unicode.isVisible c then [c]
    else ['\\', 'u', '\x7b'] ++ Nat.toDigits 16 c.toNat ++ ['\x7d']

/-- The text between quotes, as a message shows it. -/
def showQuoted (s : String) : String :=
  "\"" ++ String.ofList (s.toList.flatMap showChar) ++ "\""

end PayloadModels.Text
