import Scaffold.Proofs.Iteration

/-!
Cursors that are moved on where they stand.

A call sets the index and then each flag, or it fails before it has set anything. So after any
number of calls, failed ones among them, the index is that of an item, unless there is none, and the
flags are those that the index calls for.
-/
namespace Scaffold

variable {α : Type}

namespace Cursor

/-- A cursor over some items that knows where it stands. -/
structure Sound (items : Array α) (c : Cursor α) : Prop where
  same : c.items = items
  within : c.index < items.size ∨ c.index = 0 ∧ items.size = 0
  first : c.first = true ↔ c.index = 0
  last : c.last = true ↔ c.index + 1 = items.size
  current : c.current? = items[c.index]?

variable {items : Array α} {c : Cursor α} {index : Nat}

theorem sound_standing (h : index < items.size ∨ index = 0 ∧ items.size = 0) :
    (standing items index).Sound items :=
  ⟨rfl, h, decide_eq_true_iff, decide_eq_true_iff, rfl⟩

theorem sound_start (items : Array α) : (start items).Sound items := by
  rw [start_eq]
  apply sound_standing
  omega

namespace Sound

/-- The items and the index of a cursor settle the rest of it. -/
theorem eq_standing (h : c.Sound items) : c = standing items c.index := by
  -- a flag that holds just if a statement does is the decision of that statement
  have hfirst : c.first = decide (c.index = 0) := by
    rw [Bool.eq_iff_iff, h.first, decide_eq_true_iff]
  have hlast : c.last = decide (c.index + 1 = items.size) := by
    rw [Bool.eq_iff_iff, h.last, decide_eq_true_iff]
  calc c
    _ = ⟨c.items, c.index, c.first, c.last⟩ := rfl
    _ = standing items c.index := by rw [h.same, hfirst, hlast, standing]

theorem advance_eq (h : c.Sound items) :
    c.advance = if c.index + 1 < items.size then .ok (standing items (c.index + 1))
      else .error .mk := by
  split
  · next hleft =>
    rw [h.eq_standing]
    exact advance_standing items hleft
  · next hlast =>
    have hsize : c.size = items.size := congrArg Array.size h.same
    exact if_neg (hsize ▸ hlast)

/-- A call fails at the last item and changes nothing, or it moves on by one. -/
theorem call_cases (h : c.Sound items) :
    (items.size ≤ c.index + 1 ∧ advanceInPlace.run.run c = (.error .mk, c)) ∨
      (c.index + 1 < items.size ∧
        advanceInPlace.run.run c = (.ok (), standing items (c.index + 1))) := by
  rw [run_advanceInPlace, h.advance_eq]
  by_cases hleft : c.index + 1 < items.size
  · rw [if_pos hleft]
    exact Or.inr ⟨hleft, rfl⟩
  · rw [if_neg hleft]
    exact Or.inl ⟨Nat.le_of_not_lt hleft, rfl⟩

/-- A call leaves a sound cursor, which has moved on by one unless it was at the last item. -/
theorem call (h : c.Sound items) :
    (advanceInPlace.run.run c).2.Sound items ∧
      (advanceInPlace.run.run c).2.index = min (c.index + 1) (items.size - 1) := by
  have hwithin := h.within
  rcases h.call_cases with ⟨hlast, hcall⟩ | ⟨hleft, hcall⟩
  · have hstay : c.index = min (c.index + 1) (items.size - 1) := by omega
    rw [hcall]
    exact ⟨h, hstay⟩
  · have hmove : c.index + 1 = min (c.index + 1) (items.size - 1) := by omega
    rw [hcall]
    exact ⟨sound_standing (Or.inl hleft), hmove⟩

theorem calls (h : c.Sound items) (n : Nat) :
    ∃ c', (advanceTimes n).run c = ((), c') ∧ c'.Sound items ∧
      c'.index = min (c.index + n) (items.size - 1) := by
  -- the first call leaves a sound cursor, on which the others are made
  induction n generalizing c with
  | zero =>
    have hwithin := h.within
    exact ⟨c, rfl, h, by omega⟩
  | succ n ih =>
    obtain ⟨hnext, hindex⟩ := h.call
    obtain ⟨c', hrun, hsound, hmoved⟩ := ih hnext
    exact ⟨c', (run_advanceTimes_succ n c).trans hrun, hsound, by omega⟩

end Sound

/-- After any number of calls on a new cursor, failed ones among them, it stands at the item of that
number or at the last one, and its flags say so. The next call fails just if there is no further
item, and then the cursor stays as it is; either way the call comes to what `advance` gives. -/
theorem advanceTimes_sound (items : Array α) (n : Nat) :
    ∃ c, (advanceTimes n).run (start items) = ((), c) ∧ c.Sound items ∧
      c.index = min n (items.size - 1) ∧
      ∃ answer c', advanceInPlace.run.run c = (answer, c') ∧
        (answer = .error .mk ↔ items.size ≤ c.index + 1) ∧ (answer = .error .mk → c' = c) ∧
        c.advance = answer.map fun _ => c' := by
  obtain ⟨c, hrun, hsound, hindex⟩ := (sound_start items).calls n
  have hzero : (start items).index = 0 := rfl
  rw [hzero, Nat.zero_add] at hindex
  refine ⟨c, hrun, hsound, hindex, ?_⟩
  rcases hsound.call_cases with ⟨hlast, hcall⟩ | ⟨hleft, hcall⟩
  · refine ⟨_, _, hcall, ⟨fun _ => hlast, fun _ => rfl⟩, fun _ => rfl, ?_⟩
    rw [hsound.advance_eq, if_neg (Nat.not_lt_of_le hlast)]
    rfl
  · refine ⟨_, _, hcall, ⟨fun h => ?_, fun h => absurd hleft (Nat.not_lt_of_le h)⟩, fun h => ?_, ?_⟩
    · cases h
    · cases h
    · rw [hsound.advance_eq, if_pos hleft]
      rfl

/-- Over no items a cursor stays at the first index, which is not the last one. -/
example : ((advanceTimes 2).run (start (#[] : Array String))).2 = ⟨#[], 0, true, false⟩ := rfl

end Cursor

end Scaffold
