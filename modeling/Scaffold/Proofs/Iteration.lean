import Scaffold.Cursor

/-!
What iteration with positions gives.

The flags of a cursor are kept up to date as it moves on, so each item comes with the index that it
has in the list, and with the flags that this index calls for. Calls after the last item give
nothing, and no call moves the cursor past its end.
-/
namespace Scaffold

variable {α : Type}

/-- The position of an index in a list of some length. -/
def Position.of (length index : Nat) : Position := ⟨index, index = 0, index + 1 = length, length⟩

/-- The cursor at an index, with the flags that the index calls for. -/
def Cursor.standing (items : Array α) (index : Nat) : Cursor α :=
  ⟨items, index, index = 0, index + 1 = items.size⟩

namespace Cursor

theorem start_eq (items : Array α) : start items = standing items 0 := by
  simp [start, standing, eq_comm]

theorem advance_standing (items : Array α) {index : Nat} (h : index + 1 < items.size) :
    (standing items index).advance = .ok (standing items (index + 1)) := by
  have hflag : decide (index + 1 = 0) = false := by simp
  have hadvance : (standing items index).advance =
      .ok ⟨items, index + 1, false, index + 1 + 1 = items.size⟩ := if_pos h
  rw [hadvance, standing, hflag]

end Cursor

namespace Positioned

/-- The item of an index with its position. -/
def item? (items : Array α) (index : Nat) : Option (Position × α) :=
  items[index]?.map fun item => (.of items.size index, item)

/-- The iterator after so many calls. Its cursor stays at the last item. -/
def after (items : Array α) : Nat → Positioned α
  | 0 => start items
  | n + 1 => ⟨.standing items (min n (items.size - 1)), true⟩

theorem next_of_step {p : Positioned α} {items : Array α} {index : Nat}
    (h : p.step? = .ok (some (.standing items index))) :
    p.next = .ok (item? items index, ⟨.standing items index, true⟩) := by
  rw [next, h]
  rfl

/-- Each call gives the item of its number, and nothing once there are no more items. -/
theorem next_after (items : Array α) (n : Nat) :
    (after items n).next = .ok (item? items n, after items (n + 1)) := by
  cases n with
  | zero =>
    have hstep : (after items 0).step? = .ok (some (.standing items 0)) := by
      rw [← Cursor.start_eq]
      rfl
    rw [next_of_step hstep, after, Nat.zero_min]
  | succ n =>
    by_cases hleft : n + 1 < items.size
    · -- the cursor is at the item before this one
      have hn : min n (items.size - 1) = n := by omega
      have hn' : min (n + 1) (items.size - 1) = n + 1 := by omega
      have hguard : ¬ items.size ≤ n + 1 := by omega
      have hstep : (after items (n + 1)).step? = .ok (some (.standing items (n + 1))) := by
        rw [after, hn, step?, if_pos rfl]
        simp only [Cursor.advance_standing items hleft]
        exact if_neg hguard
      rw [next_of_step hstep, after, hn']
    · have hsame : min (n + 1) (items.size - 1) = min n (items.size - 1) := by omega
      have hguard : items.size ≤ min n (items.size - 1) + 1 := by omega
      have hnone : item? items (n + 1) = none := by
        rw [item?, Array.getElem?_eq_none (by omega)]
        rfl
      have hstep : (after items (n + 1)).step? = .ok none := by
        rw [after, step?, if_pos rfl]
        exact if_pos hguard
      rw [next, hstep, hnone, after, after, hsame]
      rfl

theorem takeNext_after (items : Array α) {k n : Nat} (h : n + k = items.size) :
    takeNext k (after items n) =
      (items.toList.drop n).mapIdx fun i x => (.of items.size (n + i), x) := by
  -- each call gives the item at the front of those that are left
  induction k generalizing n with
  | zero =>
    have hnone : items.toList.drop n = [] := List.drop_eq_nil_of_le (by simp; omega)
    rw [hnone]
    rfl
  | succ k ih =>
    have hn : n < items.toList.length := by simp; omega
    have hitem : items[n]? = some items[n] := Array.getElem?_eq_getElem (by omega)
    have hrest := ih (n := n + 1) (by omega)
    have hindex (i : Nat) :
        Position.of items.size (n + 1 + i) = Position.of items.size (n + (i + 1)) :=
      congrArg _ (by omega)
    rw [takeNext, next_after, item?, hitem, List.drop_eq_getElem_cons hn, List.mapIdx_cons]
    simp only [Option.map_some, hrest, hindex, Nat.add_zero, Array.getElem_toList]

/-- The answers of so many calls, and the iterator after them. -/
def calls : Nat → Positioned α → Except PastEnd (List (Option (Position × α)) × Positioned α)
  | 0, p => .ok ([], p)
  | n + 1, p => do
    let (answer, p) ← p.next
    let (answers, p) ← calls n p
    .ok (answer :: answers, p)

theorem calls_after (items : Array α) (n k : Nat) :
    calls k (after items n) =
      .ok ((List.range' n k).map (item? items), after items (n + k)) := by
  induction k generalizing n with
  | zero => rfl
  | succ k ih =>
    have hrest := ih (n + 1)
    have hsum : n + (k + 1) = n + 1 + k := by omega
    rw [calls, next_after, List.range'_succ, List.map_cons, hsum]
    change (calls k (after items (n + 1)) >>= _) = _
    rw [hrest]
    rfl

end Positioned

/-- Every item is given once, in order, with its position. -/
theorem positioned_eq (items : Array α) :
    positioned items = items.toList.mapIdx fun i x => (.of items.size i, x) := by
  have h := Positioned.takeNext_after items (k := items.size) (n := 0) (Nat.zero_add _)
  rw [List.drop_zero] at h
  rw [positioned, ← Positioned.after, h]
  simp only [Nat.zero_add]

end Scaffold
