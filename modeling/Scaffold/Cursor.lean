import Scaffold.Decimal.Size
import Scaffold.Failure
import Scaffold.Text.Fields

/-!
Cursors: iteration in which every step knows where it stands.

A position is written as "index:first:last:length" with flags y and n. A cursor keeps the flags as
it moves on, and cannot be moved past its last item. To move it is a function on cursors, or a call
on the one that a state holds; both come to the same.
-/
namespace Scaffold

structure Position where
  index : Nat
  first : Bool
  last : Bool
  length : Nat
  deriving DecidableEq, Repr

namespace Position

def flagText (b : Bool) : String := if b then "y" else "n"

def text (p : Position) : String :=
  toString p.index ++ ":" ++ flagText p.first ++ ":" ++ flagText p.last ++ ":" ++ toString p.length

/-- Any text is a flag; only a lone letter y, small or capital, means yes. -/
def readFlag (cs : List Char) : Bool := cs = ['y'] || cs = ['Y']

/-- The position written by four fields between colons, of which the outer two are sizes. -/
def parse? (s : String) : Option Position :=
  match Text.fields ':' s.toList with
  | [index, first, last, length] => do
    let i ← Decimal.size? (String.ofList index)
    let n ← Decimal.size? (String.ofList length)
    some ⟨i, readFlag first, readFlag last, n⟩
  | _ => none

def parse (s : String) : Except Failure Position :=
  match parse? s with
  | some p => .ok p
  | none => .error (.invalidParameter "position" .notPosition)

end Position

/-- An item index with the flags that are updated as it advances. -/
structure Cursor (α : Type) where
  items : Array α
  index : Nat
  first : Bool
  last : Bool

/-- The only way to misuse a cursor. -/
inductive PastEnd where
  | mk

def PastEnd.message : PastEnd → String
  | .mk => "advanced past the last item"

namespace Cursor

variable {α : Type}

def start (items : Array α) : Cursor α := ⟨items, 0, true, items.size = 1⟩

def size (c : Cursor α) : Nat := c.items.size

def isEmpty (c : Cursor α) : Bool := c.items.isEmpty

def current? (c : Cursor α) : Option α := c.items[c.index]?

def position (c : Cursor α) : Position := ⟨c.index, c.first, c.last, c.size⟩

/-- Moves to the next item; fails and changes nothing if there is none. -/
def advance (c : Cursor α) : Except PastEnd (Cursor α) :=
  if c.index + 1 < c.size then
    .ok { c with index := c.index + 1, first := false, last := c.index + 1 + 1 = c.size }
  else .error .mk

/-- A call on a cursor that is kept in a state. The fields are set one after the other, and what is
set before a failure stays. -/
def advanceInPlace : ExceptT PastEnd (StateM (Cursor α)) Unit := do
  let c ← get
  if c.index + 1 < c.size then
    modify fun c => { c with index := c.index + 1 }
    modify fun c => { c with first := false }
    modify fun c => { c with last := c.index + 1 = c.size }
  else throw .mk

/-- The call comes to what `advance` gives, and leaves the cursor as it is where that fails. -/
theorem run_advanceInPlace (c : Cursor α) :
    advanceInPlace.run.run c =
      match c.advance with
      | .ok c' => (.ok (), c')
      | .error e => (.error e, c) := by
  unfold advanceInPlace
  change StateT.run (ExceptT.run (ite (c.index + 1 < c.size) _ _)) c = _
  by_cases h : c.index + 1 < c.size
  · have hadvance : c.advance = .ok ⟨c.items, c.index + 1, false, c.index + 1 + 1 = c.size⟩ :=
      if_pos h
    rw [hadvance, if_pos h]
    rfl
  · have hadvance : c.advance = .error .mk := if_neg h
    rw [hadvance, if_neg h]
    rfl

/-- So many calls. One that fails is followed by the next all the same. -/
def advanceTimes : Nat → StateM (Cursor α) Unit
  | 0 => pure ()
  | n + 1 => do
    let _ ← advanceInPlace.run
    advanceTimes n

theorem run_advanceTimes_succ (n : Nat) (c : Cursor α) :
    (advanceTimes (n + 1)).run c = (advanceTimes n).run (advanceInPlace.run.run c).2 := rfl

end Cursor

/-- An iterator over the items and their positions. -/
structure Positioned (α : Type) where
  cursor : Cursor α
  started : Bool

namespace Positioned

variable {α : Type}

def start (items : Array α) : Positioned α := ⟨.start items, false⟩

/-- The cursor the next item is taken from; nothing once the last item has been given. -/
def step? (p : Positioned α) : Except PastEnd (Option (Cursor α)) :=
  if p.started then
    if p.cursor.size ≤ p.cursor.position.index + 1 then .ok none
    else p.cursor.advance.map some
  else .ok (some p.cursor)

/-- The next item with its position. -/
def next (p : Positioned α) : Except PastEnd (Option (Position × α) × Positioned α) := do
  match ← p.step? with
  | none => .ok (none, p)
  | some cursor =>
    .ok (cursor.current?.map fun item => (cursor.position, item), ⟨cursor, true⟩)

/-- What the next `n` calls give, as far as they give anything. -/
def takeNext : Nat → Positioned α → List (Position × α)
  | 0, _ => []
  | n + 1, p =>
    match p.next with
    | .ok (some x, p) => x :: takeNext n p
    | _ => []

end Positioned

/-- All items with their positions. -/
def positioned {α : Type} (items : Array α) : List (Position × α) :=
  (Positioned.start items).takeNext items.size

end Scaffold
