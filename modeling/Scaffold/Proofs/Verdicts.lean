import Mathlib.Data.List.Basic
import Mathlib.Logic.ExistsUnique
import Scaffold.Report

/-!
What a report makes of the outcomes that are pushed to it.

A status is of one kind out of three, so the three lists of a report share its outcomes out among
them. How many of the outcomes were written settles if the report is complete, partial or a total
failure, and it is just one of these.
-/
namespace Scaffold

namespace Status

variable {status : Status}

theorem isWritten_iff : status.isWritten = true ↔ ∃ bytes, status = .written bytes := by
  cases status <;> simp [isWritten]

theorem isSkipped_iff : status.isSkipped = true ↔ status = .skipped := by
  cases status <;> simp [isSkipped]

theorem isFailed_iff : status.isFailed = true ↔ ∃ message, status = .failed message := by
  cases status <;> simp [isFailed]

theorem other_than_written (h : status.isWritten = true) :
    status.isSkipped = false ∧ status.isFailed = false := by
  obtain ⟨bytes, rfl⟩ := isWritten_iff.1 h
  exact ⟨rfl, rfl⟩

theorem other_than_skipped (h : status.isSkipped = true) : status.isFailed = false := by
  rw [isSkipped_iff.1 h]
  rfl

end Status

/-- What a report can come to. -/
inductive Verdict where
  | complete
  | partially
  | totalFailure
  deriving DecidableEq, Repr

namespace Report

/-- The report of outcomes that are pushed one after the other. -/
def ofPushes (os : List Outcome) : Report := os.foldl push empty

/-- What the three tests of a report say of a verdict. -/
def comesTo (r : Report) : Verdict → Bool
  | .complete => r.isComplete
  | .partially => r.isPartial
  | .totalFailure => r.isTotalFailure

/-- Each outcome is in one of the lists, as often as it was pushed, and each list is in the order
of the pushes. -/
structure Classifies (r : Report) (os : List Outcome) : Prop where
  written_sublist : r.written.Sublist os
  skipped_sublist : r.skipped.Sublist os
  failed_sublist : r.failed.Sublist os
  mem_written : ∀ o, o ∈ r.written ↔ o ∈ os ∧ ∃ bytes, o.status = .written bytes
  mem_skipped : ∀ o, o ∈ r.skipped ↔ o ∈ os ∧ o.status = .skipped
  mem_failed : ∀ o, o ∈ r.failed ↔ o ∈ os ∧ ∃ message, o.status = .failed message
  written_skipped : r.written.Disjoint r.skipped
  written_failed : r.written.Disjoint r.failed
  skipped_failed : r.skipped.Disjoint r.failed
  perm : (r.written ++ r.skipped ++ r.failed).Perm os

variable {r : Report} {v : Verdict}

theorem outcomes_foldl_push (r : Report) (os : List Outcome) :
    (os.foldl push r).outcomes = r.outcomes ++ os := by
  induction os generalizing r with
  | nil => exact (List.append_nil _).symm
  | cons o os ih =>
    have hpush : (r.push o).outcomes = r.outcomes ++ [o] := rfl
    rw [List.foldl_cons, ih, hpush, List.append_assoc, List.singleton_append]

theorem outcomes_ofPushes (os : List Outcome) : (ofPushes os).outcomes = os :=
  outcomes_foldl_push empty os

/-! ### Classes -/

/-- A class of outcomes has none in common with one of other statuses. -/
theorem disjoint_classes (p q : Status → Bool) (h : ∀ status, p status = true → q status = false)
    (os : List Outcome) : (os.filter (p ·.status)).Disjoint (os.filter (q ·.status)) := by
  intro o hp hq
  have hfalse := h o.status (List.mem_filter.1 hp).2
  have htrue : q o.status = true := (List.mem_filter.1 hq).2
  rw [hfalse] at htrue
  cases htrue

theorem classes_perm (r : Report) : (r.written ++ r.skipped ++ r.failed).Perm r.outcomes := by
  obtain ⟨os⟩ := r
  unfold written skipped failed
  -- an outcome heads its own list, so it is moved past the lists before that one
  induction os with
  | nil => exact .refl []
  | cons o os ih =>
    simp only [List.filter_cons]
    cases o.status with
    | written bytes => exact ih.cons o
    | skipped => exact (List.perm_middle.append_right _).trans (ih.cons o)
    | failed message => exact List.perm_middle.trans (ih.cons o)

theorem classifies_outcomes (r : Report) : r.Classifies r.outcomes where
  written_sublist := List.filter_sublist
  skipped_sublist := List.filter_sublist
  failed_sublist := List.filter_sublist
  mem_written o := by rw [written, List.mem_filter, Status.isWritten_iff]
  mem_skipped o := by rw [skipped, List.mem_filter, Status.isSkipped_iff]
  mem_failed o := by rw [failed, List.mem_filter, Status.isFailed_iff]
  written_skipped := disjoint_classes Status.isWritten Status.isSkipped
    (fun _ h => (Status.other_than_written h).1) r.outcomes
  written_failed := disjoint_classes Status.isWritten Status.isFailed
    (fun _ h => (Status.other_than_written h).2) r.outcomes
  skipped_failed := disjoint_classes Status.isSkipped Status.isFailed
    (fun _ h => Status.other_than_skipped h) r.outcomes
  perm := classes_perm r

/-! ### Verdicts -/

theorem length_written_le (r : Report) : r.written.length ≤ r.outcomes.length :=
  List.length_filter_le _ _

theorem isComplete_iff :
    r.isComplete = true ↔ 0 < r.outcomes.length ∧ r.written.length = r.outcomes.length := by
  rw [isComplete, Bool.and_eq_true, beq_iff_eq, Bool.not_eq_true', List.isEmpty_eq_false_iff,
    ← List.length_pos_iff]

theorem isPartial_iff :
    r.isPartial = true ↔ 0 < r.written.length ∧ r.written.length < r.outcomes.length := by
  rw [isPartial, Bool.and_eq_true, decide_eq_true_iff, decide_eq_true_iff]

theorem isTotalFailure_iff : r.isTotalFailure = true ↔ r.written.length = 0 := by
  rw [isTotalFailure, beq_iff_eq]

/-- The verdict that the number of written outcomes calls for. -/
def verdict (r : Report) : Verdict :=
  if r.written.length = 0 then .totalFailure
  else if r.written.length < r.outcomes.length then .partially
  else .complete

theorem comesTo_verdict (r : Report) : r.comesTo r.verdict = true := by
  have hle := r.length_written_le
  unfold verdict
  split
  · next hnone => exact isTotalFailure_iff.2 hnone
  · next hsome =>
    split
    · next hnotAll => exact isPartial_iff.2 ⟨by omega, hnotAll⟩
    · next hall => exact isComplete_iff.2 ⟨by omega, by omega⟩

theorem eq_verdict (h : r.comesTo v = true) : v = r.verdict := by
  unfold verdict
  cases v with
  | complete =>
    obtain ⟨hpos, hall⟩ := isComplete_iff.1 h
    rw [if_neg (by omega), if_neg (by omega)]
  | partially =>
    obtain ⟨hsome, hnotAll⟩ := isPartial_iff.1 h
    rw [if_neg (by omega), if_pos hnotAll]
  | totalFailure => rw [if_pos (isTotalFailure_iff.1 h)]

/-! ### Verdicts by status -/

theorem isComplete_iff_forall :
    r.isComplete = true ↔ r.outcomes ≠ [] ∧ ∀ o ∈ r.outcomes, o.status.isWritten = true := by
  rw [isComplete_iff, List.length_pos_iff, written, List.length_filter_eq_length_iff]

theorem isPartial_iff_exists :
    r.isPartial = true ↔ (∃ o ∈ r.outcomes, o.status.isWritten = true) ∧
      ∃ o ∈ r.outcomes, o.status.isWritten = false := by
  rw [isPartial_iff, List.length_pos_iff_exists_mem, written,
    List.length_filter_lt_length_iff_exists]
  simp only [List.mem_filter, Bool.not_eq_true]

theorem isTotalFailure_eq_false_iff :
    r.isTotalFailure = false ↔ ∃ o ∈ r.outcomes, o.status.isWritten = true := by
  rw [isTotalFailure, written, beq_eq_false_iff_ne, Ne, List.length_eq_zero_iff,
    List.filter_eq_nil_iff]
  simp

theorem isTotalFailure_iff_forall :
    r.isTotalFailure = true ↔ ∀ o ∈ r.outcomes, o.status.isWritten = false := by
  rw [← Bool.not_eq_false, isTotalFailure_eq_false_iff]
  simp

/-- Pushed outcomes are classed by their status, each once and all in order, and the report comes to
just one verdict. It is complete if there are outcomes and all are written, partial if some are
written and some are not, and a total failure if none is, as when there are none at all. -/
theorem pushes_classified (os : List Outcome) :
    (ofPushes os).Classifies os ∧ (∃! v, (ofPushes os).comesTo v = true) ∧
      ((ofPushes os).isComplete = true ↔ os ≠ [] ∧ ∀ o ∈ os, o.status.isWritten = true) ∧
      ((ofPushes os).isPartial = true ↔
        (∃ o ∈ os, o.status.isWritten = true) ∧ ∃ o ∈ os, o.status.isWritten = false) ∧
      ((ofPushes os).isTotalFailure = true ↔ ∀ o ∈ os, o.status.isWritten = false) ∧
      empty.isTotalFailure = true := by
  have hos : (ofPushes os).outcomes = os := outcomes_ofPushes os
  have hclasses := (ofPushes os).classifies_outcomes
  have hcomplete := isComplete_iff_forall (r := ofPushes os)
  have hpartial := isPartial_iff_exists (r := ofPushes os)
  have hfailure := isTotalFailure_iff_forall (r := ofPushes os)
  rw [hos] at hclasses hcomplete hpartial hfailure
  refine ⟨hclasses, ?_, hcomplete, hpartial, hfailure, rfl⟩
  exact ⟨_, comesTo_verdict _, fun v hv => eq_verdict hv⟩

end Report

end Scaffold
