import Scaffold.Proofs.Calls
import Scaffold.Proofs.Requests
import Scaffold.Proofs.Verdicts
import Scaffold.Sink.Memory

/-!
Stores, and what is found in them under the paths of a report.

An attempt either leaves a store alone, or puts a text under its path and leaves all other names
alone. So a text is lost only to a later artifact of the same name.
-/
namespace Scaffold

variable {τ : Type} {holds : τ → String → String → Prop}

/-- What the attempt to put a text under a path does to a store. -/
inductive Settles (holds : τ → String → String → Prop) (path text : String) (t : τ) :
    Attempt → τ → Prop where
  | spared {a : Attempt} (unwritten : a.status.isWritten = false) :
      Settles holds path text t a t
  | stored {t' : τ} (stored : holds t' path text)
      (others : ∀ other x, Path.Plain other → other ≠ path → holds t other x → holds t' other x) :
      Settles holds path text t (.written text.utf8ByteSize) t'

/-- Every artifact that was written is found under its path, with the text of its kind, and its size
is that of the text. -/
def Report.Kept (r : Request) (found : String → String → Prop) (report : Report) : Prop :=
  ∀ o ∈ report.outcomes, ∀ bytes, o.status = .written bytes →
    found o.path (r.text o.kind) ∧ bytes = (r.text o.kind).utf8ByteSize

theorem Settles.found {path text : String} {t t' : τ} {a : Attempt} {bytes : Nat}
    (h : Settles holds path text t a t') (hw : a.status = .written bytes) :
    holds t' path text ∧ bytes = text.utf8ByteSize := by
  cases h with
  | spared unwritten =>
    rw [hw] at unwritten
    cases unwritten
  | stored stored others =>
    cases hw
    exact ⟨stored, rfl⟩

theorem Settles.keeps {path text other x : String} {t t' : τ} {a : Attempt}
    (h : Settles holds path text t a t') (ho : Path.Plain other)
    (hn : other ≠ path ∨ a.status.isWritten = false) (hx : holds t other x) :
    holds t' other x := by
  cases h with
  | spared unwritten => exact hx
  | stored stored others =>
    rcases hn with hn | hn
    · exact others other x ho hn hx
    · cases hn

theorem Request.isComplete_report {r : Request} {a₁ a₂ : Attempt} :
    (r.report a₁ a₂).isComplete = (a₁.status.isWritten && a₂.status.isWritten) := by
  cases h₁ : a₁.status.isWritten <;> cases h₂ : a₂.status.isWritten <;>
    simp [report, Report.isComplete, Report.written, h₁, h₂]

/-- Two artifacts that are written one after the other are both found, unless they have the same
name. -/
theorem Request.kept_report_iff {r : Request} {params : Params} (h : r.Accepted params)
    (unique : ∀ t path x y, holds t path x → holds t path y → x = y) {t t₁ t₂ : τ}
    {a₁ a₂ : Attempt}
    (h₁ : Settles holds (r.path .declaration) (r.text .declaration) t a₁ t₁)
    (h₂ : Settles holds (r.path .definition) (r.text .definition) t₁ a₂ t₂) :
    (r.report a₁ a₂).Kept r (holds t₂) ↔
      ¬ (r.declarationExt = r.definitionExt ∧ (r.report a₁ a₂).isComplete) := by
  constructor
  · -- both texts would have to be found under the one name, but they are never the same
    rintro hkept ⟨hext, hall⟩
    rw [isComplete_report, Bool.and_eq_true] at hall
    obtain ⟨b₁, hb₁⟩ := Status.isWritten_iff.1 hall.1
    obtain ⟨b₂, hb₂⟩ := Status.isWritten_iff.1 hall.2
    obtain ⟨hdecl, -⟩ := hkept _ List.mem_cons_self b₁ hb₁
    have hdef := (h₂.found hb₂).1
    rw [← path_eq_iff.2 hext] at hdef
    exact text_ne (unique _ _ _ _ hdecl hdef)
  · -- the definition spares the declaration if it has a name of its own or was not written
    intro hn o ho bytes hb
    rcases List.mem_cons.1 ho with rfl | ho
    · obtain ⟨hfound, hbytes⟩ := h₁.found hb
      refine ⟨h₂.keeps (h.plain_path .declaration) ?_ hfound, hbytes⟩
      rw [isComplete_report, Status.isWritten_iff.2 ⟨bytes, hb⟩, Bool.true_and] at hn
      rw [Ne, path_eq_iff, ← Bool.not_eq_true]
      exact Decidable.not_and_iff_not_or_not.1 hn
    · cases List.mem_singleton.1 ho
      exact h₂.found hb

namespace MemoryStore

variable {a : Assignment} {fs : List String}

theorem get?_release (store : MemoryStore) (path text other : String) :
    (store.release ⟨path, text⟩).get? other =
      if Path.order other path = .eq then some text else store.get? other :=
  Table.find?_insert path other text store.artifacts

/-- A sink that is given out is empty. -/
theorem eq_of_openSink {store : MemoryStore} {path : String} {k : MemorySink}
    (h : store.openSink path = .opened k) : k = ⟨path, ""⟩ := by
  rw [openSink] at h
  split at h
  · cases h
  split at h
  · cases h
  · exact (Opening.opened.inj h).symm

/-- A sink in memory takes every text. -/
theorem run_write (fs : List String) (k : MemorySink) (store : MemoryStore) :
    (provider.write fs k).run store =
      ((.ok (String.join fs).utf8ByteSize, ⟨k.path, k.contents ++ String.join fs⟩), store) := by
  induction fs generalizing k with
  | nil =>
    rw [String.join_nil, String.append_empty]
    rfl
  | cons f fs ih =>
    have hf : (provider.append k f).run store = ((.ok (), k.append f), store) := rfl
    rw [String.join_cons, String.utf8ByteSize_append, ← String.append_assoc]
    exact (run_bind hf).trans (run_bind (ih (k.append f)))

/-- A sink that is opened is written to the end. -/
theorem run_attempt_opened (hf : a.body.fragments a.params = .ok fs) {store : MemoryStore}
    (ho : store.openSink a.path = .opened ⟨a.path, ""⟩) :
    (a.attempt provider).run store =
      (.written (String.join fs).utf8ByteSize, store.release ⟨a.path, String.join fs⟩) := by
  have hopen : (provider.openSink a.path).run store = (.opened ⟨a.path, ""⟩, store) :=
    congrArg (·, store) ho
  have hw := run_write fs ⟨a.path, ""⟩ store
  rw [← Body.write_of_fragments hf, String.empty_append] at hw
  have hr : (provider.release ⟨a.path, String.join fs⟩).run store =
    (.ok (), store.release ⟨a.path, String.join fs⟩) := rfl
  exact (run_bind hopen).trans ((run_bind hw).trans (run_bind hr))

theorem settles_attempt (hf : a.body.fragments a.params = .ok fs) (hp : Path.Plain a.path)
    (store : MemoryStore) : ∃ attempt store', (a.attempt provider).run store = (attempt, store') ∧
      Settles (fun store path text => store.get? path = some text) a.path (String.join fs) store
        attempt store' := by
  have hrun : (provider.openSink a.path).run store = (store.openSink a.path, store) := rfl
  cases ho : store.openSink a.path with
  | declined =>
    rw [ho] at hrun
    exact ⟨.declined, store, run_bind hrun, .spared rfl⟩
  | failed failure =>
    rw [ho] at hrun
    exact ⟨.unavailable failure, store, run_bind hrun, .spared rfl⟩
  | opened k =>
    cases eq_of_openSink ho
    refine ⟨_, _, run_attempt_opened hf ho, .stored ?_ fun other x hother hne hx => ?_⟩
    · rw [get?_release, if_pos ((hp.order_eq_iff hp).2 rfl)]
    · rw [get?_release, if_neg (mt (hother.order_eq_iff hp).1 hne)]
      exact hx

end MemoryStore

end Scaffold
