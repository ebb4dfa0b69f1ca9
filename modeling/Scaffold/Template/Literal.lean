import Scaffold.Template.Route
import Scaffold.Json.Reader

/-!
Literals in tags.

They are JSON values, and strings may also stand between apostrophes. What looks like a literal
may still have no value, as a number with a leading zero does not. The fuel bounds nesting and
the number of items.
-/
namespace Scaffold.Template

/-- What was read, or the text of the first literal in it that has no value. -/
abbrev Checked (α : Type) := Except String α

namespace Step

/-! ### What looks like a literal -/

def isHexDigit (c : Char) : Bool := (Json.hexDigit? c).isSome

/-- The letters of the escapes that both kinds of string have, `u` apart. -/
def isEscapeLetter (c : Char) : Bool := ['\\', '/', 'b', 'f', 'n', 'r', 't'].contains c

/-- The size of the rest of a string whose opening mark has been read. -/
def stringSize (mark : Char) : List Char → Option Nat
  | [] => none
  | '\\' :: 'u' :: a :: b :: c :: d :: rest =>
    if [a, b, c, d].all isHexDigit then (stringSize mark rest).map (· + 6) else none
  | '\\' :: c :: rest =>
    if c = mark || isEscapeLetter c then (stringSize mark rest).map (· + 2) else none
  | c :: rest => if c = mark then some 1 else (stringSize mark rest).map (· + 1)

def string : Step Unit :=
  (word "\"" *> sized (stringSize '"')) <|> (word "'" *> sized (stringSize '\''))

def digits : Step Unit := discard (chars1 Char.isDigit)

def number : Step Unit := do
  let _ ← found (word "-")
  digits
  let _ ← found (word "." *> chars Char.isDigit)
  let _ ← found (word "E" *> found (word "-") *> digits)
  nameEnd

def constant : Step Unit := (word "null" <|> word "true" <|> word "false") *> nameEnd

/-- The items of a list that follow the first. -/
def moreItems (item : Step Unit) : Nat → Step Unit
  | 0 => pure ()
  | fuel + 1 => (do
      word ","
      blanks
      item
      blanks
      moreItems item fuel) <|> pure ()

/-- A list in brackets, whose first item may be missing. -/
def listed (opening closing : String) (item : Step Unit) (fuel : Nat) : Step Unit := do
  word opening
  blanks
  let _ ← found item
  blanks
  moreItems item fuel
  word closing

/-- A string, a colon and a value. -/
def member (value : Step Unit) : Step Unit := do
  string
  blanks
  word ":"
  blanks
  value

def literalShape : Nat → Step Unit
  | 0 => failure
  | fuel + 1 =>
    string <|> listed "[" "]" (literalShape fuel) fuel
      <|> listed "\x7b" "\x7d" (member (literalShape fuel)) fuel <|> number <|> constant

/-! ### What it stands for -/

/-- Between apostrophes a quote needs no escape and an apostrophe does. -/
def requote : List Char → List Char
  | '\\' :: '\'' :: rest => '\'' :: requote rest
  | '\\' :: c :: rest => '\\' :: c :: requote rest
  | '"' :: rest => '\\' :: '"' :: requote rest
  | '\'' :: rest => '"' :: requote rest
  | c :: rest => c :: requote rest
  | [] => []

/-- A string between apostrophes is written between quotes. -/
def respell : List Char → List Char
  | '\'' :: rest => '"' :: requote rest
  | cs => cs

def literalValue (cs : List Char) : Checked Json :=
  match Json.value Json.depthLimit (respell cs) with
  | .ok (v, []) => .ok v
  | _ => .error (String.ofList cs)

def literal (fuel : Nat) : Step (Checked Json) := do
  let (_, cs) ← written (literalShape fuel)
  return literalValue cs

end Step

end Scaffold.Template
