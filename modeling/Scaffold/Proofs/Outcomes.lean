import Scaffold.Proofs.Calls

/-!
What a report says, measured against the calls that were made.

The status of an artifact is settled by the answers its provider gave while it was being written. A
mapping that is refused leaves the provider alone, and once a sink is open no failure comes from
anywhere but the provider.
-/
namespace Scaffold

variable {σ S : Type}

namespace Call

def openFailure? : Call S → Option Failure
  | .opened _ (.failed failure) => some failure
  | _ => none

def appendFailure? : Call S → Option Failure
  | .appended _ _ (.error failure) _ => some failure
  | _ => none

def releaseFailure? : Call S → Option Failure
  | .released _ (.error failure) => some failure
  | _ => none

/-- The failure that a call was answered with. -/
def failure? (c : Call S) : Option Failure :=
  c.openFailure?.or (c.appendFailure?.or c.releaseFailure?)

/-- The text that a sink was given and took. -/
def taken? : Call S → Option String
  | .appended _ text (.ok _) _ => some text
  | _ => none

end Call

/-- The failure that some calls are to be reported with: one to open comes before the first one to
append, and that before one to release. -/
def blamed (cs : List (Call S)) : Option Failure :=
  (cs.findSome? Call.openFailure?).or
    ((cs.findSome? Call.appendFailure?).or (cs.findSome? Call.releaseFailure?))

/-- The calls that were made for an artifact bear out its status. -/
structure Truthful (path text : String) (cs : List (Call S)) (status : Status) : Prop where
  alone : Conversation .idle cs .idle ∧ cs.filterMap Call.path? = [path]
  skipped : status = .skipped ↔ .opened path .declined ∈ cs
  failed : ∀ message, status = .failed message ↔
    ∃ failure, blamed cs = some failure ∧ message = failure.chain
  written : ∀ bytes, status = .written bytes ↔
    (∃ k, .opened path (.opened k) ∈ cs) ∧ (∀ c ∈ cs, c.failure? = none) ∧
      bytes = text.utf8ByteSize
  complete : status.isWritten → String.join (cs.filterMap Call.taken?) = text

theorem blamed_eq_none_iff {cs : List (Call S)} :
    blamed cs = none ↔ ∀ c ∈ cs, c.failure? = none := by
  simp only [blamed, Call.failure?, Option.or_eq_none_iff, List.findSome?_eq_none_iff]
  constructor
  · rintro ⟨ho, ha, hr⟩ c hc
    exact ⟨ho c hc, ha c hc, hr c hc⟩
  · intro h
    exact ⟨fun c hc => (h c hc).1, fun c hc => (h c hc).2.1, fun c hc => (h c hc).2.2⟩

/-- Appending ends with the first failure, or all fragments have been taken. -/
theorem Appends.verdict {fs : List String} {k k' : S} {cs : List (Call S)}
    {result : Except Failure Nat} (h : Appends fs k cs k' result) :
    (∃ failure, result = .error failure ∧ cs.findSome? Call.appendFailure? = some failure) ∨
      (result = .ok (String.join fs).utf8ByteSize ∧
        cs.findSome? Call.appendFailure? = none ∧ cs.filterMap Call.taken? = fs) := by
  -- the calls after one that was taken have the verdict; what it took adds to the bytes
  induction h with
  | done k => exact Or.inr ⟨by simp, rfl, rfl⟩
  | refused f fs k k' failure => exact Or.inl ⟨failure, rfl, rfl⟩
  | taken _ ih =>
    rcases ih with ⟨failure, hr, hf⟩ | ⟨hr, hf, ht⟩
    · subst hr
      exact Or.inl ⟨failure, rfl, hf⟩
    · subst hr
      refine Or.inr ⟨?_, hf, ?_⟩
      · rw [String.join_cons, String.utf8ByteSize_append]
        rfl
      · rw [List.filterMap_cons, ht]
        rfl

theorem Appends.mem {fs : List String} {k k' : S} {cs : List (Call S)}
    {result : Except Failure Nat} (h : Appends fs k cs k' result) {c : Call S} (hc : c ∈ cs) :
    ∃ k f answer k', c = .appended k f answer k' := by
  induction h with
  | done k => cases hc
  | refused f fs k k' failure => exact ⟨_, _, _, _, List.mem_singleton.1 hc⟩
  | taken _ ih =>
    rcases List.mem_cons.1 hc with hc | hc
    · exact ⟨_, _, _, _, hc⟩
    · exact ih hc

/-- Once a sink is open, a failure to append is blamed before one to release. -/
theorem Appends.blamed_eq {fs : List String} {k k' : S} {cs : List (Call S)}
    {result : Except Failure Nat} (h : Appends fs k cs k' result) (path : String)
    (released : Except Failure Unit) :
    blamed (.opened path (.opened k) :: cs ++ [.released k' released]) =
      (cs.findSome? Call.appendFailure?).or (Call.releaseFailure? (.released k' released)) := by
  have ho : cs.findSome? Call.openFailure? = none := by
    refine List.findSome?_eq_none_iff.2 fun c hc => ?_
    obtain ⟨_, _, _, _, rfl⟩ := h.mem hc
    rfl
  have hr : cs.findSome? Call.releaseFailure? = none := by
    refine List.findSome?_eq_none_iff.2 fun c hc => ?_
    obtain ⟨_, _, _, _, rfl⟩ := h.mem hc
    rfl
  cases released <;> simp [blamed, ho, hr, Call.openFailure?, Call.appendFailure?,
    Call.releaseFailure?, List.findSome?_append, List.findSome?_cons]

theorem Truthful.of_blamed {path text : String} {cs : List (Call S)} {status : Status}
    (alone : Conversation .idle cs .idle ∧ cs.filterMap Call.path? = [path])
    (hd : .opened path .declined ∉ cs)
    (hs : status = (blamed cs).elim (.written text.utf8ByteSize) (.failed ·.chain))
    (ho : blamed cs = none →
      (∃ k, .opened path (.opened k) ∈ cs) ∧ String.join (cs.filterMap Call.taken?) = text) :
    Truthful path text cs status := by
  have hn : blamed cs = none ↔ ∀ c ∈ cs, c.failure? = none := blamed_eq_none_iff
  cases hb : blamed cs with
  | some failure =>
    rw [hb] at hs hn
    subst hs
    refine ⟨alone, ⟨fun h => ?_, fun h => absurd h hd⟩, ?_, ?_, fun h => ?_⟩
    · cases h
    · intro message
      constructor
      · intro h
        exact ⟨failure, hb, (Status.failed.inj h).symm⟩
      · rintro ⟨failure', h, rfl⟩
        rw [hb] at h
        cases h
        rfl
    · intro bytes
      constructor
      · intro h
        cases h
      · rintro ⟨-, hall, -⟩
        exact absurd (hn.2 hall) (by simp)
    · cases h
  | none =>
    rw [hb] at hs hn
    subst hs
    obtain ⟨hk, ht⟩ := ho hb
    refine ⟨alone, ⟨fun h => ?_, fun h => absurd h hd⟩, ?_, ?_, fun _ => ht⟩
    · cases h
    · intro message
      constructor
      · intro h
        cases h
      · rintro ⟨failure, h, -⟩
        rw [hb] at h
        cases h
    · intro bytes
      constructor
      · intro h
        exact ⟨hk, hn.1 rfl, (Status.written.inj h).symm⟩
      · rintro ⟨-, -, rfl⟩
        rfl

theorem Visit.truthful {path : String} {fs : List String} {cs : List (Call S)} {a : Attempt}
    (h : Visit path fs cs a) : Truthful path (String.join fs) cs a.status := by
  have alone := And.intro h.conversation h.paths
  cases h with
  | declined =>
    refine ⟨alone, ?_, ?_, ?_, ?_⟩
    · exact ⟨fun _ => List.mem_singleton_self _, fun _ => rfl⟩
    · intro message
      simp [Attempt.status, blamed, Call.openFailure?, Call.appendFailure?, Call.releaseFailure?]
    · intro bytes
      simp [Attempt.status]
    · intro h
      cases h
  | unavailable failure =>
    exact .of_blamed alone (by simp) rfl (fun h => by cases h)
  | @used k k' cs' result appends released =>
    -- between opening and releasing there are only appends
    have hd : .opened path .declined ∉
        .opened path (.opened k) :: cs' ++ [.released k' released] := by
      have happends : .opened path .declined ∉ cs' := by
        intro hc
        obtain ⟨_, _, _, _, hcall⟩ := appends.mem hc
        cases hcall
      simpa using happends
    have hb := appends.blamed_eq path released
    rcases appends.verdict with ⟨failure, rfl, hf⟩ | ⟨rfl, hf, ht⟩
    · rw [hf] at hb
      refine .of_blamed alone hd (by rw [hb]; rfl) (fun h => ?_)
      rw [hb] at h
      cases h
    · rw [hf] at hb
      refine .of_blamed alone hd ?_ (fun _ => ⟨⟨_, List.mem_cons_self⟩, ?_⟩)
      · rw [hb]
        cases released <;> rfl
      · simp [List.filterMap_append, List.filterMap_cons, Call.taken?, ht]

/-- Every status in the report is the one that the calls for its artifact bear out. -/
theorem report_truthful (p : Provider (StateM σ) S) {r : Request} {params : Params}
    (h : r.Accepted params) (s : σ) :
    ∃ c₁ c₂ st₁ st₂, calls p params s = c₁ ++ c₂ ∧
      ((generate p params).run s).1 = .ok ⟨[⟨.declaration, r.path .declaration, st₁⟩,
        ⟨.definition, r.path .definition, st₂⟩]⟩ ∧
      Truthful (r.path .declaration) (r.text .declaration) c₁ st₁ ∧
      Truthful (r.path .definition) (r.text .definition) c₂ st₂ := by
  obtain ⟨a₁, a₂, s', c₁, c₂, hp, hl, hv₁, hv₂⟩ := generate_accepted p h s
  have hc : calls p params s = c₁ ++ c₂ := by rw [calls, hl]
  have hr : ((generate p params).run s).1 = .ok (r.report a₁ a₂) := by rw [hp]
  exact ⟨c₁, c₂, a₁.status, a₂.status, hc, hr, hv₁.truthful, hv₂.truthful⟩

/-- The declaration's sink is full after forty bytes and cannot be released either, and the
definition is declined. -/
theorem report_truthful_scripted :
    let r : Request := ⟨"a", true, ["B"], "h", "c"⟩
    let script (path : String) : PathScript :=
      if path = "a_backend.h" then ⟨false, none, some 40, some (.io .closed)⟩
      else { PathScript.willing with declines := true }
    let p := ScriptedProvider.provider script
    r.Accepted r.asParams ∧ ∃ c₁ c₂ st₁ st₂, calls p r.asParams [] = c₁ ++ c₂ ∧
      ((generate p r.asParams).run []).1 = .ok ⟨[⟨.declaration, "a_backend.h", st₁⟩,
        ⟨.definition, "a_backend.c", st₂⟩]⟩ ∧
      Truthful "a_backend.h" (r.text .declaration) c₁ st₁ ∧
      Truthful "a_backend.c" (r.text .definition) c₂ st₂ := by
  intro r script p
  have hv : (⟨"a", true, ["B"], "h", "c"⟩ : Request).validate = .ok () := rfl
  have h : r.Accepted r.asParams := Request.accepted_asParams hv
  exact ⟨h, report_truthful p h []⟩

/-! ### Failures of a mapping -/

/-- All names and parameters of the artifacts can be derived, and each body reads what is derived
for it. -/
def Request.Renders (r : Request) : Prop :=
  ∀ kind : ArtifactKind, ∃ path overrides params fragments,
    kind.descriptor.path r.asParams = .ok path ∧
    Descriptor.renderOverrides r.asParams.toJson kind.descriptor.overrides = .ok overrides ∧
    kind.descriptor.derive r.asParams = .ok params ∧
    kind.descriptor.body.fragments params = .ok fragments

theorem Request.renders (r : Request) : r.Renders := fun kind =>
  ⟨r.path kind, r.overrides kind, r.derived kind, r.fragments kind, r.render_path kind,
    r.renderOverrides_asParams kind, r.derive_asParams kind, r.fragments_derived kind⟩

theorem exists_failure_of_blamed {cs : List (Call S)} {failure : Failure}
    (h : blamed cs = some failure) : ∃ c ∈ cs, c.failure? = some failure := by
  simp only [blamed, Option.or_eq_some_iff, List.findSome?_eq_none_iff] at h
  rcases h with h | ⟨ho, h | ⟨ha, h⟩⟩
  · obtain ⟨c, hc, h⟩ := List.exists_of_findSome?_eq_some h
    exact ⟨c, hc, by rw [Call.failure?, h]; rfl⟩
  · obtain ⟨c, hc, h⟩ := List.exists_of_findSome?_eq_some h
    exact ⟨c, hc, by rw [Call.failure?, ho c hc, h]; rfl⟩
  · obtain ⟨c, hc, h⟩ := List.exists_of_findSome?_eq_some h
    exact ⟨c, hc, by rw [Call.failure?, ho c hc, ha c hc, h]; rfl⟩

theorem Truthful.exists_failure {path text message : String} {cs : List (Call S)}
    {status : Status} (h : Truthful path text cs status) (hs : status = .failed message) :
    ∃ c ∈ cs, ∃ failure, c.failure? = some failure ∧ message = failure.chain := by
  obtain ⟨failure, hb, hm⟩ := (h.failed message).1 hs
  obtain ⟨c, hc, hf⟩ := exists_failure_of_blamed hb
  exact ⟨c, hc, failure, hf, hm⟩

/-- A mapping that is rejected fails with the reason, before anything is asked of the provider. Any
other can be rendered, and what then fails is a call on the provider. -/
theorem generate_atomic (p : Provider (StateM σ) S) (params : Params) (s : σ) :
    (∀ failure, ((generate p params).run s).1 = .error failure ↔
      Request.Rejected params failure) ∧
    (∀ failure, Request.Rejected params failure →
      calls p params s = [] ∧ ((generate p params).run s).2 = s) ∧
    ∀ r : Request, r.Accepted params → r.Renders ∧
      ∃ report, ((generate p params).run s).1 = .ok report ∧
        ∀ o ∈ report.outcomes, ∀ message, o.status = .failed message →
          ∃ c ∈ calls p params s, ∃ failure, c.failure? = some failure ∧
            message = failure.chain := by
  have hrejected (failure : Failure) (h : Request.Rejected params failure) :
      (generate p params).run s = (.error failure, s) := by
    rw [generate_rejected p h]
    rfl
  have hfails (failure : Failure) (h : ((generate p params).run s).1 = .error failure) :
      Request.Rejected params failure := by
    -- an accepted mapping has a report, and a rejected one fails with its own failure only
    rcases Job.accepted_or_rejected params with ⟨r, ha⟩ | ⟨failure', hr⟩
    · obtain ⟨_, _, _, _, _, hp, _⟩ := generate_accepted p ha s
      rw [hp] at h
      cases h
    · rw [hrejected failure' hr] at h
      cases h
      exact hr
  have haccepted (r : Request) (h : r.Accepted params) :
      ∃ report, ((generate p params).run s).1 = .ok report ∧
        ∀ o ∈ report.outcomes, ∀ message, o.status = .failed message →
          ∃ c ∈ calls p params s, ∃ failure, c.failure? = some failure ∧
            message = failure.chain := by
    obtain ⟨a₁, a₂, s', c₁, c₂, hp, hl, hv₁, hv₂⟩ := generate_accepted p h s
    have hc : calls p params s = c₁ ++ c₂ := by rw [calls, hl]
    refine ⟨r.report a₁ a₂, by rw [hp], ?_⟩
    intro o ho message hm
    rw [hc]
    rcases List.mem_cons.1 ho with rfl | ho
    · obtain ⟨c, hc, hf⟩ := hv₁.truthful.exists_failure hm
      exact ⟨c, List.mem_append_left _ hc, hf⟩
    · cases List.mem_singleton.1 ho
      obtain ⟨c, hc, hf⟩ := hv₂.truthful.exists_failure hm
      exact ⟨c, List.mem_append_right _ hc, hf⟩
  refine ⟨fun failure => ⟨hfails failure, fun h => ?_⟩, fun failure h => ⟨?_, ?_⟩, fun r h => ?_⟩
  · rw [hrejected failure h]
  · exact calls_rejected p h s
  · rw [hrejected failure h]
  · exact ⟨r.renders, haccepted r h⟩

/-- A mapping without a name, whatever the provider does. -/
theorem generate_atomic_nameless :
    let p := ScriptedProvider.provider fun _ => .willing
    let failure := Failure.invalidParameter "name" .missing
    Request.Rejected .empty failure ∧
      ((generate p .empty).run []).1 = .error failure ∧ calls p .empty [] = [] := by
  intro p failure
  have h : Request.Rejected .empty failure := Or.inl rfl
  obtain ⟨herror, hcalls, -⟩ := generate_atomic p .empty []
  exact ⟨h, (herror failure).2 h, (hcalls failure h).1⟩

end Scaffold
