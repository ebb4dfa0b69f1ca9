import Scaffold.Decimal.Binary64

/-!
The shortest decimal text that reads back as a given binary number, and among the shortest the one
nearest to it.
-/
namespace Scaffold.Decimal

/-- The exponent of the first decimal place of `num / den`. -/
def leadingPlace (num den : Nat) : Int :=
  let k : Int := ((Nat.toDigits 10 num).length : Int) - (Nat.toDigits 10 den).length
  let (n, d) := scaled den 10 k
  if n ≤ num * d then k else k - 1

/-- The neighbours of `num / den` on the grid of step `10 ^ place`, the nearer one first. -/
def neighbours (num den : Nat) (place : Int) : List Nat :=
  let (n, d) := scaled num 10 (-place)
  let near := nearest n (d * den)
  let floor := n / (d * den)
  [near, if near = floor then floor + 1 else floor]

/-- The first neighbour of `x` that reads back as `x` when places are added one by one, with its
place. -/
def shortestFrom (x : Binary64) (lead : Int) : Nat → Nat → Nat × Int
  | 0, _ => (0, 0)
  | fuel + 1, places =>
    let place := lead - places
    let readsBack (c : Nat) : Bool :=
      let (n, d) := scaled c 10 place
      Binary64.ofRatio? x.negative n d == some x
    match (neighbours x.ratio.1 x.ratio.2 place).find? readsBack with
    | some c => (c, place)
    | none => shortestFrom x lead fuel (places + 1)

/-- Digits and decimal place of the shortest text. -/
def shortest (x : Binary64) : Nat × Int :=
  if x.mantissa = 0 then (0, 0)
  else shortestFrom x (leadingPlace x.ratio.1 x.ratio.2) 20 0

/-- The places of a first digit for which a number is written without an exponent. -/
structure Layout where
  leastPositional : Int
  greatestPositional : Int

/-- Numbers from `10 ^ -5` to below `10 ^ 16` are positional. -/
def jsonLayout : Layout := ⟨-5, 15⟩

def zeros (n : Nat) : List Char := List.replicate n '0'

/-- Writes digits whose first stands at place `lead`; a whole number ends in ".0". -/
def layOut (f : Layout) (digits : List Char) (lead : Int) : List Char :=
  if lead < f.leastPositional || f.greatestPositional < lead then
    let tail := match digits.drop 1 with
      | [] => []
      | more => '.' :: more
    digits.take 1 ++ tail ++ ['e', if lead < 0 then '-' else '+'] ++ Nat.toDigits 10 lead.natAbs
  else if lead < 0 then
    ['0', '.'] ++ zeros (lead.natAbs - 1) ++ digits
  else
    let whole := lead.toNat + 1
    let fraction := digits.drop whole
    digits.take whole ++ zeros (whole - digits.length) ++ '.' ::
      (if fraction.isEmpty then ['0'] else fraction)

def dropLastZeros (digits : List Char) : List Char :=
  (digits.reverse.dropWhile (· == '0')).reverse

def Binary64.text (f : Layout) (x : Binary64) : String :=
  let (c, place) := shortest x
  let digits := Nat.toDigits 10 c
  let body := layOut f (dropLastZeros digits) (place + (digits.length - 1 : Nat))
  String.ofList (if x.negative then '-' :: body else body)

end Scaffold.Decimal
