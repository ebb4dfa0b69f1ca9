/-!
Sizes: natural numbers that fit in 64 bits, and the decimal texts accepted for them.
-/
namespace Scaffold.Decimal

/-- The first number that is too large for a size. -/
def sizeLimit : Nat := Nat.pow 2 64

def digitValue (c : Char) : Nat := c.toNat - '0'.toNat

/-- The number a list of decimal digits stands for. -/
def value (digits : List Char) : Nat :=
  digits.foldl (fun n c => 10 * n + digitValue c) 0

/-- Drops the one plus sign that may stand before the digits. -/
def dropPlus : List Char → List Char
  | '+' :: rest => rest
  | cs => cs

/-- One or more decimal digits, after an optional plus, with a value below `sizeLimit`. -/
def size? (s : String) : Option Nat :=
  let digits := dropPlus s.toList
  if !digits.isEmpty && digits.all Char.isDigit && value digits < sizeLimit then
    some (value digits)
  else none

end Scaffold.Decimal
