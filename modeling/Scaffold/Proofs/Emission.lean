import Scaffold.Proofs.Layouts
import Scaffold.Proofs.Outcomes

/-!
Emission into sinks that may refuse a text.

A body hands its fragments over one after the other and stops at the first refusal. A sink with a
budget is left with the longest beginning of the fragments that it has room for, so with more room
there is only more of the same text.
-/
namespace Scaffold

variable {m : Type → Type} {σ S : Type} {fs taken : List String} {f : String} {budget : Nat}

/-- What the body of an artifact has read from its parameters. -/
inductive Blueprint where
  | declaration (d : Declaration)
  | definition (d : Definition)

namespace Blueprint

def body : Blueprint → Body
  | .declaration _ => .declaration
  | .definition _ => .definition

def fragments : Blueprint → List String
  | .declaration d => d.fragments
  | .definition d => d.fragments

/-- The parameters that the body reads a blueprint from. -/
def asParams : Blueprint → Params
  | .declaration d => d.asParams
  | .definition d => d.asParams

/-- Writes the text of an artifact. -/
def emit [Monad m] (b : Blueprint) (k : Sink m S) (s : S) : m (Except Failure Nat × S) :=
  b.body.write k b.asParams s

theorem fragments_asParams (b : Blueprint) : b.body.fragments b.asParams = .ok b.fragments := by
  cases b with
  | declaration d =>
    have hread : Declaration.ofParams d.asParams = .ok d := rfl
    exact congrArg (Except.map Declaration.fragments) hread
  | definition d =>
    have hread : Definition.ofParams d.asParams = .ok d := rfl
    exact congrArg (Except.map Definition.fragments) hread

theorem emit_eq_write [Monad m] (b : Blueprint) (k : Sink m S) (s : S) :
    b.emit k s = k.write b.fragments s :=
  Body.write_of_fragments b.fragments_asParams

end Blueprint

/-! ### Refusals -/

namespace Sink

/-- A sink that takes every text and keeps them apart. -/
def accepting : Sink Id (List String) := ⟨fun texts text => (.ok (), texts ++ [text])⟩

/-- A sink by itself, as a provider with nothing to open. -/
def alone [Monad m] (k : Sink m S) : Provider m S where
  toSink := k
  openSink _ := pure .declined
  release _ := pure (.ok ())

/-- The sink with a log of its appends. -/
def logged [Monad m] (k : Sink m S) : Sink (StateT (List (Call S)) m) S := k.alone.logged.toSink

theorem write_accepting (fs texts : List String) :
    accepting.write fs texts = (.ok (String.join fs).utf8ByteSize, texts ++ fs) := by
  induction fs generalizing texts with
  | nil =>
    rw [List.append_nil, String.join_nil]
    rfl
  | cons f fs ih =>
    have hrest : accepting.write (f :: fs) texts =
        ((accepting.write fs (texts ++ [f])).1.map (f.utf8ByteSize + ·),
          (accepting.write fs (texts ++ [f])).2) := rfl
    rw [hrest, ih, String.join_cons, String.utf8ByteSize_append, List.append_assoc]
    rfl

end Sink

/-- The text that a call asks a sink to take. -/
def Call.text? : Call S → Option String
  | .appended _ text _ _ => some text
  | _ => none

/-- Fragments are appended up to the first that is refused, whose failure is the result. -/
structure Halts (fs : List String) (cs : List (Call S)) (result : Except Failure Nat) : Prop where
  attempted : cs.filterMap Call.text? <+: fs
  complete : (∃ bytes, result = .ok bytes) ↔ cs.filterMap Call.taken? = fs
  refused : ∀ failure, result = .error failure → ∃ before k f k',
    cs = before ++ [.appended k f (.error failure) k'] ∧ ∀ c ∈ before, c.appendFailure? = none

theorem Appends.halts {k k' : S} {cs : List (Call S)} {result : Except Failure Nat}
    (h : Appends fs k cs k' result) : Halts fs cs result := by
  induction h with
  | done k =>
    have hnone (failure : Failure) : (.ok 0 : Except Failure Nat) ≠ .error failure := by simp
    exact ⟨List.prefix_rfl, iff_of_true ⟨0, rfl⟩ rfl, fun failure h => absurd h (hnone failure)⟩
  | refused f fs k k' failure =>
    have hfailed : ¬ ∃ bytes, (.error failure : Except Failure Nat) = .ok bytes := by simp
    have hnone : [Call.appended k f (.error failure) k'].filterMap Call.taken? = [] := rfl
    have hless : [Call.appended k f (.error failure) k'].filterMap Call.taken? ≠ f :: fs := by
      rw [hnone]
      exact (List.cons_ne_nil f fs).symm
    refine ⟨⟨fs, rfl⟩, iff_of_false hfailed hless, ?_⟩
    intro failure' hresult
    have hsame : failure' = failure := (Except.error.inj hresult).symm
    subst hsame
    exact ⟨[], k, f, k', rfl, List.forall_mem_nil _⟩
  | @taken f fs k k' k'' cs result _ ih =>
    -- the append that was taken comes before all that is known of the others
    refine ⟨?_, ?_, ?_⟩
    · have hfirst : (Call.appended k f (.ok ()) k' :: cs).filterMap Call.text? =
          f :: cs.filterMap Call.text? := rfl
      rw [hfirst]
      exact (List.prefix_cons_inj f).2 ih.attempted
    · have hfirst : (Call.appended k f (.ok ()) k' :: cs).filterMap Call.taken? =
          f :: cs.filterMap Call.taken? := rfl
      rw [hfirst, List.cons_inj_right, ← ih.complete]
      cases result <;> simp [Except.map]
    · intro failure hresult
      have hrest : result = .error failure := by
        cases result with
        | ok bytes => cases hresult
        | error failure' => exact congrArg Except.error (Except.error.inj hresult)
      obtain ⟨before, k₁, g, k₂, hcs, hbefore⟩ := ih.refused failure hrest
      refine ⟨.appended k f (.ok ()) k' :: before, k₁, g, k₂, ?_, ?_⟩
      · rw [hcs, List.cons_append]
      · exact List.forall_mem_cons.2 ⟨rfl, hbefore⟩

/-! ### Budgets -/

/-- The longest beginning of some fragments that has so many bytes at most. -/
structure LongestWithin (budget : Nat) (fs taken : List String) : Prop where
  beginning : taken <+: fs
  fits : (String.join taken).utf8ByteSize ≤ budget
  longest : ∀ more, more <+: fs → (String.join more).utf8ByteSize ≤ budget → more <+: taken

namespace LongestWithin

theorem nil (budget : Nat) : LongestWithin budget [] [] := by
  refine ⟨List.prefix_rfl, ?_, fun more hmore _ => hmore⟩
  rw [String.join_nil]
  exact Nat.zero_le budget

/-- Nothing fits if the first fragment does not. -/
theorem of_lt (h : budget < f.utf8ByteSize) (fs : List String) :
    LongestWithin budget (f :: fs) [] := by
  refine ⟨List.nil_prefix, ?_, ?_⟩
  · rw [String.join_nil]
    exact Nat.zero_le budget
  · intro more hmore hfits
    cases more with
    | nil => exact List.prefix_rfl
    | cons g more =>
      have hg : g = f := (List.cons_prefix_cons.1 hmore).1
      rw [String.join_cons, String.utf8ByteSize_append, hg] at hfits
      omega

theorem cons (h : LongestWithin (budget - f.utf8ByteSize) fs taken)
    (hf : f.utf8ByteSize ≤ budget) : LongestWithin budget (f :: fs) (f :: taken) := by
  refine ⟨(List.prefix_cons_inj f).2 h.beginning, ?_, ?_⟩
  · have hfits := h.fits
    rw [String.join_cons, String.utf8ByteSize_append]
    omega
  · intro more hmore hfits
    cases more with
    | nil => exact List.nil_prefix
    | cons g more =>
      obtain ⟨rfl, hrest⟩ := List.cons_prefix_cons.1 hmore
      rw [String.join_cons, String.utf8ByteSize_append] at hfits
      have hroom : (String.join more).utf8ByteSize ≤ budget - g.utf8ByteSize := by omega
      exact (List.prefix_cons_inj g).2 (h.longest more hrest hroom)

theorem eq_iff (h : LongestWithin budget fs taken) :
    taken = fs ↔ (String.join fs).utf8ByteSize ≤ budget := by
  constructor
  · intro heq
    rw [← heq]
    exact h.fits
  · intro hfits
    have hall : fs <+: taken := h.longest fs List.prefix_rfl hfits
    exact h.beginning.eq_of_length_le hall.length_le

/-- With more room there is only more of the same. -/
theorem mono {budget' : Nat} {taken' : List String} (h : LongestWithin budget fs taken)
    (h' : LongestWithin budget' fs taken') (hle : budget ≤ budget') : taken <+: taken' :=
  h'.longest taken h.beginning (Nat.le_trans h.fits hle)

end LongestWithin

namespace BudgetSink

variable {k : BudgetSink}

theorem append_refused (hk : k.left = some budget) (hf : budget < f.utf8ByteSize) :
    k.append f = (.error k.exhausted, k) := by
  rw [append, hk]
  simp [hf]

theorem append_taken (hk : k.left = some budget) (hf : f.utf8ByteSize ≤ budget) :
    k.append f = (.ok (), k.take f) := by
  rw [append, hk]
  simp [hf]

/-- A sink with a budget takes the longest beginning that it has room for. -/
theorem write_eq (fs : List String) (hk : k.left = some budget) : ∃ result k' taken,
    sink.write (m := Id) fs k = (result, k') ∧ LongestWithin budget fs taken ∧
      k'.text = k.text ++ String.join taken ∧ ((∃ bytes, result = .ok bytes) ↔ taken = fs) := by
  induction fs generalizing k budget with
  | nil =>
    refine ⟨.ok 0, k, [], rfl, .nil budget, ?_, iff_of_true ⟨0, rfl⟩ rfl⟩
    rw [String.join_nil, String.append_empty]
  | cons f fs ih =>
    by_cases hf : budget < f.utf8ByteSize
    · have happend : sink.append (m := Id) k f = (.error k.exhausted, k) := append_refused hk hf
      refine ⟨.error k.exhausted, k, [], ?_, .of_lt hf fs, ?_, iff_of_false (by simp) (by simp)⟩
      · rw [Sink.write, happend]
        rfl
      · rw [String.join_nil, String.append_empty]
    · have hroom : f.utf8ByteSize ≤ budget := Nat.le_of_not_lt hf
      have happend : sink.append (m := Id) k f = (.ok (), k.take f) := append_taken hk hroom
      have hleft : (k.take f).left = some (budget - f.utf8ByteSize) := by
        rw [take, hk]
        rfl
      obtain ⟨result, k', taken, hrest, hlongest, htext, hresult⟩ := ih hleft
      refine ⟨result.map (f.utf8ByteSize + ·), k', f :: taken, ?_, hlongest.cons hroom, ?_, ?_⟩
      · rw [Sink.write, happend]
        change (do let (result, s) ← sink.write (m := Id) fs (k.take f); _) = _
        rw [hrest]
        rfl
      · rw [htext, String.join_cons, ← String.append_assoc]
        rfl
      · rw [List.cons_inj_right, ← hresult]
        cases result <;> simp [Except.map]

end BudgetSink

/-! ### Emissions -/

namespace Blueprint

/-- The fragments of a text, as a sink gets them that takes everything. -/
def handed (b : Blueprint) : List String := (b.emit Sink.accepting []).2

/-- What is left in a sink with a budget, with the result of the emission. -/
def within (b : Blueprint) (path : String) (budget : Nat) : Except Failure Nat × String :=
  let (result, k) := b.emit (m := Id) BudgetSink.sink (.empty path (some budget))
  (result, k.text)

theorem handed_eq (b : Blueprint) : b.handed = b.fragments := by
  rw [handed, emit_eq_write, Sink.write_accepting, List.nil_append]

theorem within_eq (b : Blueprint) (path : String) (budget : Nat) : ∃ result taken,
    b.within path budget = (result, String.join taken) ∧ LongestWithin budget b.fragments taken ∧
      ((∃ bytes, result = .ok bytes) ↔ taken = b.fragments) := by
  have hk : (BudgetSink.empty path (some budget)).left = some budget := rfl
  obtain ⟨result, k', taken, hwrite, hlongest, htext, hresult⟩ :=
    BudgetSink.write_eq b.fragments hk
  refine ⟨result, taken, ?_, hlongest, hresult⟩
  have hempty : (BudgetSink.empty path (some budget)).text = "" := rfl
  rw [hempty, String.empty_append] at htext
  rw [within, emit_eq_write, hwrite, ← htext]

/-- A willing sink is given the fragments of the text. Whatever the sink, an emission appends a
beginning of these, all of them if it succeeds, and ends with the failure of the one that was
refused. A sink with a budget takes the longest beginning that fits, and with a larger one more of
the same text. -/
theorem emit_halts (b : Blueprint) (k : Sink (StateM σ) S) (sink : S) (s : σ) (path : String) :
    b.handed = b.fragments ∧
    (∃ result sink' s' cs, (b.emit k sink).run s = ((result, sink'), s') ∧
      ((b.emit k.logged sink).run []).run s = (((result, sink'), cs), s') ∧
      Halts b.handed cs result) ∧
    (∀ budget, ((∃ bytes, (b.within path budget).1 = .ok bytes) ↔
        (String.join b.handed).utf8ByteSize ≤ budget) ∧
      ∃ taken, (b.within path budget).2 = String.join taken ∧
        LongestWithin budget b.handed taken) ∧
    ∀ budget extra, ∃ rest,
      (b.within path (budget + extra)).2 = (b.within path budget).2 ++ rest := by
  rw [handed_eq]
  refine ⟨rfl, ?_, ?_, ?_⟩
  · obtain ⟨result, sink', s', cs, hrun, hlogged, happends⟩ :=
      logged_write k.alone b.fragments sink [] s
    refine ⟨result, sink', s', cs, ?_, ?_, happends.halts⟩
    · rw [emit_eq_write]
      exact hrun
    · rw [emit_eq_write]
      exact hlogged
  · intro budget
    obtain ⟨result, taken, hwithin, hlongest, hresult⟩ := b.within_eq path budget
    rw [hwithin]
    exact ⟨hresult.trans hlongest.eq_iff, taken, rfl, hlongest⟩
  · intro budget extra
    obtain ⟨_, taken, hless, hlongest, -⟩ := b.within_eq path budget
    obtain ⟨_, taken', hmore, hlongest', -⟩ := b.within_eq path (budget + extra)
    obtain ⟨rest, hrest⟩ := hlongest.mono hlongest' (Nat.le_add_right budget extra)
    refine ⟨String.join rest, ?_⟩
    rw [hless, hmore, ← hrest, String.join_append]

end Blueprint

end Scaffold
