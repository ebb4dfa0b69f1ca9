import Scaffold.Params.Basic
import Scaffold.Json.Reader
import Scaffold.Json.Printer

/-!
Parameters as JSON: a mapping is an object, and the shape of each member tells its kind. An empty
array is an empty list of strings.

Texts are written without a JSON value in between, by an encoder that is told the shapes one after
the other.
-/
namespace Scaffold

/-- What an output makes of the shapes that parameters have. -/
structure Encoder (α : Type) where
  bool : Bool → α
  string : String → α
  sequence : List α → α
  map : List (String × α) → α

namespace Encoder

def json : Encoder Json := ⟨.bool, .string, .array, .object⟩

/-- JSON texts, for any nesting level that they may stand at. -/
def text (style : Json.Style) : Encoder (Nat → List Char) where
  bool b level := Json.chars style level (.bool b)
  string s _ := Json.stringText s
  sequence parts level :=
    style.enclose '[' ']' level (parts.map fun part => part (level + 1))
  map parts level :=
    style.enclose '\x7b' '\x7d' level
      (parts.map fun (key, part) => style.memberText key (part (level + 1)))

end Encoder

namespace ParamValue

variable {α : Type}

mutual

def encode (e : Encoder α) : ParamValue → α
  | .bool b => e.bool b
  | .str s => e.string s
  | .list items => e.sequence (items.map e.string)
  | .records rows => e.sequence (encodeRows e rows)

def encodeRows (e : Encoder α) : List Row → List α
  | [] => []
  | row :: rows => e.map (encodeRow e row) :: encodeRows e rows

def encodeRow (e : Encoder α) : Row → List (String × α)
  | [] => []
  | (k, v) :: row => (k, v.encode e) :: encodeRow e row

end

mutual

def toJson : ParamValue → Json
  | .bool b => .bool b
  | .str s => .string s
  | .list items => .array (items.map .string)
  | .records rows => .array (rowsToJson rows)

def rowsToJson : List Row → List Json
  | [] => []
  | row :: rows => .object (rowToMembers row) :: rowsToJson rows

def rowToMembers : Row → List (String × Json)
  | [] => []
  | (k, v) :: row => (k, v.toJson) :: rowToMembers row

end

/-- Whether an array is one of strings only. -/
def strings? (items : List Json) : Option (List String) := items.mapM Json.string?

mutual

/-- The parameter that a value stands for, if it has one of the four shapes. -/
def ofJson? : Json → Option ParamValue
  | .bool b => some (.bool b)
  | .string s => some (.str s)
  | .array items =>
    match strings? items with
    | some xs => some (.list xs)
    | none => (rowsOfJson? items).map .records
  | .null | .number _ | .object _ => none

/-- The records that an array of objects stands for. -/
def rowsOfJson? : List Json → Option (List Row)
  | [] => some []
  | .object members :: rest => do
    let row ← rowOfMembers? [] members
    let rows ← rowsOfJson? rest
    some (row :: rows)
  | _ :: _ => none

/-- Adds members to a record one after the other, so that the last one of a name stays. -/
def rowOfMembers? (row : Row) : List (String × Json) → Option Row
  | [] => some row
  | (k, v) :: rest => do
    let x ← ofJson? v
    rowOfMembers? (Table.insert compare k x row) rest

end

end ParamValue

namespace Params

def toJson (p : Params) : Json := .object (ParamValue.rowToMembers p.entries)

def encode {α : Type} (e : Encoder α) (p : Params) : α := e.map (ParamValue.encodeRow e p.entries)

/-- The text of a mapping. -/
def print (style : Json.Style) (p : Params) : String :=
  String.ofList (p.encode (.text style) 0)

/-- The compact text of a mapping. -/
def text (p : Params) : String := p.print .compact

end Params

end Scaffold
