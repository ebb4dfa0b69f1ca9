/-!
Finite binary floating-point numbers with 53 bits, rounded to nearest with ties to even.
-/
namespace Scaffold.Decimal

/-- The number `mantissa * 2 ^ exponent`, with the sign that zero has too. -/
structure Binary64 where
  negative : Bool
  mantissa : Nat
  exponent : Int
  deriving DecidableEq, Repr, Inhabited

/-- The numerator and denominator of `n * b ^ e`. -/
def scaled (n b : Nat) (e : Int) : Nat × Nat :=
  if 0 ≤ e then (n * Nat.pow b e.toNat, 1) else (n, Nat.pow b (-e).toNat)

/-- The quotient of two numbers rounded to nearest, a tie to the even neighbour. -/
def nearest (num den : Nat) : Nat :=
  let q := num / den
  let r := num % den
  if den < 2 * r || (den = 2 * r && q % 2 = 1) then q + 1 else q

/-- The largest exponent of the least place for which the quotient still has 53 bits, but not
below that of the smallest positive number. -/
def placeOf (num den : Nat) : Int :=
  let e : Int := (num.log2 : Int) - den.log2 - 52
  let (n, d) := scaled num 2 (-e)
  let e := if n / (d * den) < Nat.pow 2 52 then e - 1 else e
  max e (-1074)

namespace Binary64

/-- The number nearest to `num / den`, or nothing if that is past the largest one. -/
def ofRatio? (negative : Bool) (num den : Nat) : Option Binary64 :=
  if num = 0 then some ⟨negative, 0, 0⟩
  else
    let e := placeOf num den
    let (n, d) := scaled num 2 (-e)
    let m := nearest n (d * den)
    let (m, e) := if m = Nat.pow 2 53 then (Nat.pow 2 52, e + 1) else (m, e)
    if e ≤ 971 then some ⟨negative, m, e⟩ else none

/-- Numerator and denominator of the absolute value. -/
def ratio (x : Binary64) : Nat × Nat := scaled x.mantissa 2 x.exponent

/-- The rounded product with the power of ten `10 ^ k`, which is itself rounded. -/
def timesPow10? (x : Binary64) (k : Nat) : Option Binary64 := do
  let p ← ofRatio? false (Nat.pow 10 k) 1
  ofRatio? x.negative (x.ratio.1 * p.ratio.1) (x.ratio.2 * p.ratio.2)

/-- The rounded quotient by the power of ten `10 ^ k`, which is itself rounded. -/
def overPow10? (x : Binary64) (k : Nat) : Option Binary64 := do
  let p ← ofRatio? false (Nat.pow 10 k) 1
  ofRatio? x.negative (x.ratio.1 * p.ratio.2) (x.ratio.2 * p.ratio.1)

/-- The greatest power of ten in one scaling. -/
def greatestStep : Nat := 308

/-- Divides `n` times by the greatest step; zero stays as it is. -/
def overSteps? : Nat → Binary64 → Option Binary64
  | 0, x => some x
  | n + 1, x =>
    if x.mantissa = 0 then some x else (x.overPow10? greatestStep).bind (overSteps? n)

/-- The quotient by `10 ^ k`, in as many steps as it takes. -/
def scaleDown? (x : Binary64) (k : Nat) : Option Binary64 := do
  let steps := (k - 1) / greatestStep
  (← overSteps? steps x).overPow10? (k - steps * greatestStep)

/-- The number `significand * 10 ^ k` with one rounding for the significand and one for each
scaling; nothing if it is too large. -/
def ofDecimal? (negative : Bool) (significand : Nat) (k : Int) : Option Binary64 := do
  let x ← ofRatio? negative significand 1
  if 0 ≤ k then
    if k ≤ greatestStep then x.timesPow10? k.toNat
    else if x.mantissa = 0 then some x
    else none
  else x.scaleDown? (-k).toNat

end Binary64

end Scaffold.Decimal
