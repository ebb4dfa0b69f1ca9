import Scaffold.Template.Literal

/-!
Reading tags and comments.

A tag holds the name of a helper with its arguments, a route, or a call in parentheses. The words
`as` and `else` can stand as arguments only if a name follows them, and a tag that begins with
`else` and goes on like a tag of its own is none. The fuel bounds arguments and nesting.
-/
namespace Scaffold.Template

/-- A call in the making: the name of a helper and its arguments. -/
abbrev Call := String × List Argument

namespace Step

/-- A word that cannot stand as an argument here. -/
def reserved : Step Unit := do
  word "as" <|> word "else"
  blanks
  nameEnd

/-- A route as the name of a helper without arguments. -/
def bareCall (fuel : Nat) : Step (Checked Call) := return .ok ((← route fuel).written, [])

mutual

def argument : Nat → Step (Checked Argument)
  | 0 => failure
  | fuel + 1 => do
    absent reserved
    (return (← literal fuel).map .literal)
      <|> (return .ok (.route (← route fuel)))
      <|> (return (← nestedCall fuel).map fun (helper, as) => .call helper as)

/-- A call in parentheses: a helper with arguments, or the name of one alone. -/
def nestedCall : Nat → Step (Checked Call)
  | 0 => failure
  | fuel + 1 => do
    word "("
    blanks
    let c ← helperCall fuel <|> bareCall fuel
    blanks
    word ")"
    return c

/-- A helper with one argument or more. -/
def helperCall : Nat → Step (Checked Call)
  | 0 => failure
  | fuel + 1 => do
    let helper ← name
    blanks
    let as ← arguments fuel
    guard !as.isEmpty
    return (as.mapM id).map (helper, ·)

/-- As many arguments as there are. -/
def arguments : Nat → Step (List (Checked Argument))
  | 0 => pure []
  | fuel + 1 => (do
      let a ← argument fuel
      blanks
      let as ← arguments fuel
      return a :: as) <|> pure []

end

/-- The inside of a tag. -/
def tagBody (fuel : Nat) : Step (Checked Tag) :=
  (return (← helperCall fuel).map fun (helper, as) => .call helper as)
    <|> (return .ok (.show (← route fuel)))
    <|> (return (← nestedCall fuel).map fun (helper, as) => .nested helper as)

def closingBraces : Step Unit := blanks *> word "\x7d\x7d"

/-- The inside of a tag that begins with `else` and ends there or goes on with a name and arguments,
with or without a blank between them. -/
def elseBody (fuel : Nat) : Step Unit := do
  word "else"
  closingBraces <|> do
    blanks
    let _ ← name
    blanks
    let _ ← arguments fuel
    closingBraces

/-- A tag with its braces. A third pair of them makes no difference, except that `else` is a plain
name inside. -/
def tag (fuel : Nat) : Step (Checked Tag) := do
  word "\x7b\x7b"
  blanks
  if ← found (word "\x7b") then
    blanks
    let t ← tagBody fuel
    blanks
    word "\x7d"
    closingBraces
    return t
  else
    absent (elseBody fuel)
    let t ← tagBody fuel
    closingBraces
    return t

/-- The size of a text up to the first occurrence of a mark and with it. -/
def sizeThrough (mark : String) : List Char → Option Nat
  | [] => none
  | c :: rest =>
    if mark.toList.isPrefixOf (c :: rest) then some mark.length
    else (sizeThrough mark rest).map (· + 1)

/-- A comment with its braces. One that begins with two dashes ends with two dashes if it can. -/
def comment : Step Unit := do
  word "\x7b\x7b!"
  (do
    blanks
    word "--"
    sized (sizeThrough "--\x7d\x7d")) <|> sized (sizeThrough "\x7d\x7d")

end Step

end Scaffold.Template
