/-!
Sets of characters and character maps written as runs of code points.
-/
namespace Scaffold.Text

/-- The code points from `first` to `last` in steps of `stride`. -/
structure Run where
  first : Nat
  last : Nat
  stride : Nat

namespace Run

def contains (r : Run) (n : Nat) : Bool :=
  r.first ≤ n && n ≤ r.last && (n - r.first) % r.stride == 0

end Run

/-- Membership of a character in the union of some runs. -/
def inRuns (runs : List Run) (c : Char) : Bool :=
  runs.any (·.contains c.toNat)

/-- A run whose characters all map to the character `offset` code points further on. -/
structure Shift where
  run : Run
  offset : Int

/-- The image of a character under the first shift whose run holds it. -/
def shift? (shifts : List Shift) (c : Char) : Option Char :=
  (shifts.find? (·.run.contains c.toNat)).map fun s => Char.ofNat ((c.toNat : Int) + s.offset).toNat

end Scaffold.Text
