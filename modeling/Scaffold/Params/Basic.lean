import Scaffold.Table
import Scaffold.Failure

/-!
Parameters by name.

A parameter is a boolean, a string, a list of strings or a list of records, and a record has
parameters of its own. Records and whole mappings are kept in ascending order of their keys, so
that two of them are equal as soon as they hold the same parameters.
-/
namespace Scaffold

inductive ParamValue where
  | bool (b : Bool)
  | str (s : String)
  | list (items : List String)
  | records (rows : List (List (String × ParamValue)))
  deriving Repr, BEq

abbrev Row := List (String × ParamValue)

namespace ParamValue

def kind : ParamValue → ParamKind
  | .bool _ => .boolean
  | .str _ => .string
  | .list _ => .strings
  | .records _ => .records

mutual

/-- Every record within the value is in ascending order. -/
def Canonical : ParamValue → Prop
  | .bool _ | .str _ | .list _ => True
  | .records rows => CanonicalRows rows

def CanonicalRows : List Row → Prop
  | [] => True
  | row :: rows => Table.Ascending compare row ∧ CanonicalRow row ∧ CanonicalRows rows

def CanonicalRow : Row → Prop
  | [] => True
  | (_, v) :: row => v.Canonical ∧ CanonicalRow row

end

@[simp] theorem canonical_bool (b : Bool) : (bool b).Canonical := by simp [Canonical]
@[simp] theorem canonical_str (s : String) : (str s).Canonical := by simp [Canonical]
@[simp] theorem canonical_list (xs : List String) : (list xs).Canonical := by simp [Canonical]

theorem canonicalRow_iff {row : Row} :
    CanonicalRow row ↔ ∀ e ∈ row, e.2.Canonical := by
  induction row with
  | nil => simp [CanonicalRow]
  | cons e row ih => simp [CanonicalRow, ih]

theorem canonicalRow_insert {row : Row} {k : String} {v : ParamValue} (hv : v.Canonical)
    (h : CanonicalRow row) : CanonicalRow (Table.insert compare k v row) := by
  rw [canonicalRow_iff] at h ⊢
  intro e he
  rcases Table.mem_insert he with he | ⟨_, he⟩
  · exact h e he
  · exact he ▸ hv

end ParamValue

/-- A mapping from names to parameters. -/
structure Params where
  entries : List (String × ParamValue)
  ascending : Table.Ascending compare entries
  canonical : ParamValue.CanonicalRow entries

namespace Params

@[ext] theorem ext {p q : Params} (h : p.entries = q.entries) : p = q := by
  cases p
  cases q
  cases h
  rfl

instance : BEq Params := ⟨fun p q => p.entries == q.entries⟩

def empty : Params := ⟨[], Table.ascending_nil, by simp [ParamValue.CanonicalRow]⟩

instance : Inhabited Params := ⟨empty⟩

def get? (p : Params) (key : String) : Option ParamValue := Table.find? compare key p.entries

def contains (p : Params) (key : String) : Bool := (p.get? key).isSome

def keys (p : Params) : List String := p.entries.map Prod.fst

/-- Sets a parameter, in place of the one it had under the key. -/
def insert (p : Params) (key : String) (v : ParamValue) (hv : v.Canonical := by simp) : Params where
  entries := Table.insert compare key v p.entries
  ascending := Table.ascending_insert key v p.ascending
  canonical := ParamValue.canonicalRow_insert hv p.canonical

/-- Sets parameters one after the other. -/
def insertAll (p : Params) : (overrides : List (String × ParamValue)) →
    (∀ e ∈ overrides, e.2.Canonical) → Params
  | [], _ => p
  | (k, v) :: rest, h =>
    (p.insert k v (h (k, v) List.mem_cons_self)).insertAll rest
      fun e he => h e (List.mem_cons_of_mem _ he)

/-- The parameters whose key is in a list. -/
def restrict (p : Params) (keys : List String) : Params where
  entries := p.entries.filter fun e => keys.contains e.1
  ascending := p.ascending.filter _
  canonical := by
    have h := p.canonical
    rw [ParamValue.canonicalRow_iff] at h ⊢
    exact fun e he => h e (List.mem_filter.1 he).1

/-- The parameters whose key is in a list, overlaid with others; the last override of a key
wins. -/
def derive (p : Params) (keys : List String) (overrides : List (String × ParamValue))
    (h : ∀ e ∈ overrides, e.2.Canonical) : Params :=
  (p.restrict keys).insertAll overrides h

/-- The value under a key, if `take` accepts its shape. -/
def required {α : Type} (p : Params) (key : String) (expected : ParamKind)
    (take : ParamValue → Option α) : Except Failure α :=
  match p.get? key with
  | none => .error (.invalidParameter key .missing)
  | some v =>
    match take v with
    | some x => .ok x
    | none => .error (.invalidParameter key (.wrongKind expected v.kind))

def str (p : Params) (key : String) : Except Failure String :=
  p.required key .string fun
    | .str s => some s
    | _ => none

def bool (p : Params) (key : String) : Except Failure Bool :=
  p.required key .boolean fun
    | .bool b => some b
    | _ => none

def list (p : Params) (key : String) : Except Failure (List String) :=
  p.required key .strings fun
    | .list xs => some xs
    | _ => none

/-- What `read` makes of a parameter, or a default if there is none. -/
def orElse {α : Type} (p : Params) (key : String) (default : α)
    (read : Params → String → Except Failure α) : Except Failure α :=
  if p.contains key then read p key else .ok default

def boolOr (p : Params) (key : String) (default : Bool) : Except Failure Bool :=
  p.orElse key default bool

end Params

end Scaffold
