import Scaffold.Json.Basic

/-!
Writing JSON texts, compact and indented by two spaces.
-/
namespace Scaffold.Json

/-- A control character as a code unit in lowercase hexadecimal. -/
def unitEscape (c : Char) : List Char :=
  let digits := Nat.toDigits 16 c.toNat
  ['\\', 'u'] ++ List.replicate (4 - digits.length) '0' ++ digits

/-- Quotes, backslashes and control characters are escaped, all else is written as it is. -/
def escaped (c : Char) : List Char :=
  if c = '"' then ['\\', '"']
  else if c = '\\' then ['\\', '\\']
  else if c = '\x08' then ['\\', 'b']
  else if c = '\x0c' then ['\\', 'f']
  else if c = '\n' then ['\\', 'n']
  else if c = '\r' then ['\\', 'r']
  else if c = '\t' then ['\\', 't']
  else if c < ' ' then unitEscape c
  else [c]

def stringText (s : String) : List Char := '"' :: s.toList.flatMap escaped ++ ['"']

/-- How a text is laid out: without any blanks, or with every item and member on a line of its
own, indented by two spaces a level. -/
inductive Style where
  | compact
  | pretty
  deriving DecidableEq, Repr

namespace Style

/-- What stands before an item, a member or a closing bracket of a nesting level. -/
def gap : Style → (level : Nat) → List Char
  | .compact, _ => []
  | .pretty, level => '\n' :: List.replicate (2 * level) ' '

/-- What stands between a colon and the value after it. -/
def space : Style → List Char
  | .compact => []
  | .pretty => [' ']

/-- Brackets of a level around texts of the next; nothing stands between them if there are no
texts. -/
def enclose (style : Style) (opening closing : Char) (level : Nat) : List (List Char) → List Char
  | [] => [opening, closing]
  | text :: texts =>
    opening :: style.gap (level + 1) ++ text
      ++ texts.flatMap (fun text => ',' :: style.gap (level + 1) ++ text)
      ++ style.gap level ++ [closing]

def memberText (style : Style) (key : String) (text : List Char) : List Char :=
  stringText key ++ ':' :: style.space ++ text

end Style

mutual

/-- The text of a value at a nesting level. -/
def chars (style : Style) (level : Nat) : Json → List Char
  | .null => ['n', 'u', 'l', 'l']
  | .bool true => ['t', 'r', 'u', 'e']
  | .bool false => ['f', 'a', 'l', 's', 'e']
  | .number n => n.text.toList
  | .string s => stringText s
  | .array vs => style.enclose '[' ']' level (itemChars style (level + 1) vs)
  | .object ms => style.enclose '\x7b' '\x7d' level (memberChars style (level + 1) ms)

def itemChars (style : Style) (level : Nat) : List Json → List (List Char)
  | [] => []
  | v :: vs => chars style level v :: itemChars style level vs

def memberChars (style : Style) (level : Nat) : List (String × Json) → List (List Char)
  | [] => []
  | (k, v) :: ms => style.memberText k (chars style level v) :: memberChars style level ms

end

def print (style : Style) (v : Json) : String := String.ofList (chars style 0 v)

end Scaffold.Json
