import Scaffold.Decimal.Shortest

/-!
JSON values. An object keeps its members in order, repeated names included.
-/
namespace Scaffold

/-- A number is an integer if it is written as one and fits in 64 bits, signed or unsigned. -/
inductive Json.Number where
  | integer (i : Int)
  | float (x : Decimal.Binary64)
  deriving DecidableEq, Repr

inductive Json where
  | null
  | bool (b : Bool)
  | number (n : Json.Number)
  | string (s : String)
  | array (items : List Json)
  | object (members : List (String × Json))
  deriving Repr

namespace Json

instance : Inhabited Json := ⟨.null⟩

def Number.text : Number → String
  | .integer i => toString i
  | .float x => x.text Decimal.jsonLayout

def bool? : Json → Option Bool
  | .bool b => some b
  | _ => none

/-- The text of a string value. -/
def string? : Json → Option String
  | .string s => some s
  | _ => none

end Json

end Scaffold
