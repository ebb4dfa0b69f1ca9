import Scaffold.Proofs.Names
import Scaffold.Sink.Scripted

/-!
What a generation asks of its provider.

A provider may answer as it likes, depending on a state of any kind. The log of its calls shows that
sinks are opened one at a time, in the order of the artifacts, that nothing is appended after a
refusal, and that every sink is given back exactly once.
-/
namespace Scaffold

variable {m : Type → Type} {σ S : Type}

/-- A call on a provider or on one of its sinks, with the answer. -/
inductive Call (S : Type) where
  | opened (path : String) (answer : Opening S)
  | appended (sink : S) (text : String) (answer : Except Failure Unit) (after : S)
  | released (sink : S) (answer : Except Failure Unit)

/-- The provider with a log of all calls, the last one at the end. -/
def Provider.logged [Monad m] (p : Provider m S) : Provider (StateT (List (Call S)) m) S where
  append sink text := fun log => do
    let (answer, after) ← p.append sink text
    pure ((answer, after), log ++ [.appended sink text answer after])
  openSink path := fun log => do
    let answer ← p.openSink path
    pure (answer, log ++ [.opened path answer])
  release sink := fun log => do
    let answer ← p.release sink
    pure (answer, log ++ [.released sink answer])

/-- The calls that a generation makes. -/
def calls (p : Provider (StateM σ) S) (params : Params) (s : σ) : List (Call S) :=
  (((generate p.logged params).run []).run s).1.2

/-- The calls by which fragments are appended to a sink, what the sink has become and the number of
bytes it took. -/
inductive Appends : List String → S → List (Call S) → S → Except Failure Nat → Prop where
  | done (k : S) : Appends [] k [] k (.ok 0)
  | refused (f : String) (fs : List String) (k k' : S) (failure : Failure) :
      Appends (f :: fs) k [.appended k f (.error failure) k'] k' (.error failure)
  | taken {f : String} {fs : List String} {k k' k'' : S} {cs : List (Call S)}
      {result : Except Failure Nat} (rest : Appends fs k' cs k'' result) :
      Appends (f :: fs) k (.appended k f (.ok ()) k' :: cs) k'' (result.map (f.utf8ByteSize + ·))

/-- The calls that the attempt to write one artifact makes. -/
inductive Visit (path : String) (fs : List String) : List (Call S) → Attempt → Prop where
  | declined : Visit path fs [.opened path .declined] .declined
  | unavailable (failure : Failure) :
      Visit path fs [.opened path (.failed failure)] (.unavailable failure)
  | used {k k' : S} {cs : List (Call S)} {result : Except Failure Nat}
      (appends : Appends fs k cs k' result) (released : Except Failure Unit) :
      Visit path fs (.opened path (.opened k) :: cs ++ [.released k' released])
        (.ofResults result released)

/-! ### Runs -/

theorem run_bind {α β : Type} {x : StateM σ α} {f : α → StateM σ β} {s s' : σ} {a : α}
    (h : x.run s = (a, s')) : (x >>= f).run s = (f a).run s' := by
  change (f (x.run s).1).run (x.run s).2 = _
  rw [h]

theorem run_run_bind {τ α β : Type} {x : StateT τ (StateM σ) α} {f : α → StateT τ (StateM σ) β}
    {t t' : τ} {s s' : σ} {a : α} (h : (x.run t).run s = ((a, t'), s')) :
    ((x >>= f).run t).run s = ((f a).run t').run s' := by
  change ((f ((x.run t).run s).1.1).run ((x.run t).run s).1.2).run ((x.run t).run s).2 = _
  rw [h]

theorem logged_append {p : Provider (StateM σ) S} {k k' : S} {f : String}
    {answer : Except Failure Unit} {s s' : σ} (h : (p.append k f).run s = ((answer, k'), s'))
    (log : List (Call S)) :
    ((p.logged.append k f).run log).run s =
      (((answer, k'), log ++ [.appended k f answer k']), s') :=
  run_bind h

theorem logged_openSink {p : Provider (StateM σ) S} {path : String} {answer : Opening S}
    {s s' : σ} (h : (p.openSink path).run s = (answer, s')) (log : List (Call S)) :
    ((p.logged.openSink path).run log).run s = ((answer, log ++ [.opened path answer]), s') :=
  run_bind h

theorem logged_release {p : Provider (StateM σ) S} {k : S} {answer : Except Failure Unit}
    {s s' : σ} (h : (p.release k).run s = (answer, s')) (log : List (Call S)) :
    ((p.logged.release k).run log).run s = ((answer, log ++ [.released k answer]), s') :=
  run_bind h

theorem Body.write_of_fragments [Monad m] {k : Sink m S} {body : Body} {params : Params}
    {fs : List String} {s : S} (hf : body.fragments params = .ok fs) :
    body.write k params s = k.write fs s := by
  rw [Body.write, hf]

theorem logged_write (p : Provider (StateM σ) S) (fs : List String) (k : S) (log : List (Call S))
    (s : σ) : ∃ result k' s' cs,
      (p.write fs k).run s = ((result, k'), s') ∧
      ((p.logged.write fs k).run log).run s = (((result, k'), log ++ cs), s') ∧
      Appends fs k cs k' result := by
  -- on the fragments, with the sink, the log and the state as the calls before have left them
  induction fs generalizing k log s with
  | nil =>
    refine ⟨.ok 0, k, s, [], rfl, ?_, .done k⟩
    rw [List.append_nil]
    rfl
  | cons f fs ih =>
    rcases ha : (p.append k f).run s with ⟨⟨answer, k'⟩, s'⟩
    have hl := logged_append ha log
    cases answer with
    | error failure =>
      exact ⟨.error failure, k', s', _, run_bind ha, run_run_bind hl, .refused ..⟩
    | ok _ =>
      obtain ⟨result, k'', s'', cs, hp, hc, happ⟩ := ih k' (log ++ [.appended k f (.ok ()) k']) s'
      rw [List.append_assoc] at hc
      exact ⟨_, k'', s'', _, (run_bind ha).trans (run_bind hp),
        (run_run_bind hl).trans (run_run_bind hc), .taken happ⟩

theorem logged_attempt (p : Provider (StateM σ) S) {a : Assignment} {fs : List String}
    (hf : a.body.fragments a.params = .ok fs) (log : List (Call S)) (s : σ) :
    ∃ attempt s' cs, (a.attempt p).run s = (attempt, s') ∧
      ((a.attempt p.logged).run log).run s = ((attempt, log ++ cs), s') ∧
      Visit a.path fs cs attempt := by
  rcases ho : (p.openSink a.path).run s with ⟨answer, s₁⟩
  have hl := logged_openSink ho log
  cases answer with
  | declined => exact ⟨_, s₁, _, run_bind ho, run_run_bind hl, .declined⟩
  | failed failure => exact ⟨_, s₁, _, run_bind ho, run_run_bind hl, .unavailable failure⟩
  | opened k =>
    obtain ⟨result, k', s₂, cs, hw, hc, happ⟩ :=
      logged_write p fs k (log ++ [.opened a.path (.opened k)]) s₁
    rcases hr : (p.release k').run s₂ with ⟨released, s₃⟩
    have hlr := logged_release hr (log ++ [.opened a.path (.opened k)] ++ cs)
    rw [← Body.write_of_fragments hf] at hw hc
    rw [List.append_assoc, List.append_assoc] at hlr
    rw [List.append_assoc] at hc
    exact ⟨_, s₃, _, (run_bind ho).trans ((run_bind hw).trans (run_bind hr)),
      (run_run_bind hl).trans ((run_run_bind hc).trans (run_run_bind hlr)), .used happ released⟩

/-- What a request with a valid mapping makes of two attempts. -/
def Request.report (r : Request) (a₁ a₂ : Attempt) : Report := ⟨[
  ⟨.declaration, r.path .declaration, a₁.status⟩, ⟨.definition, r.path .definition, a₂.status⟩]⟩

theorem generate_run {p : Provider (StateM σ) S} {r : Request} {params : Params}
    (h : r.Accepted params) {a₁ a₂ : Attempt} {s s₁ s₂ : σ}
    (h₁ : ((r.assignment .declaration).attempt p).run s = (a₁, s₁))
    (h₂ : ((r.assignment .definition).attempt p).run s₁ = (a₂, s₂)) :
    (generate p params).run s = (.ok (r.report a₁ a₂), s₂) := by
  have hall : (Job.run p ⟨r, r.assignments⟩).run s =
      ([(r.assignment .declaration, a₁), (r.assignment .definition, a₂)], s₂) :=
    (run_bind h₁).trans (run_bind ((run_bind h₂).trans rfl))
  rw [generate, Job.ofParams_accepted h]
  exact run_bind hall

theorem generate_run_run {τ : Type} {p : Provider (StateT τ (StateM σ)) S} {r : Request}
    {params : Params} (h : r.Accepted params) {a₁ a₂ : Attempt} {t t₁ t₂ : τ} {s s₁ s₂ : σ}
    (h₁ : (((r.assignment .declaration).attempt p).run t).run s = ((a₁, t₁), s₁))
    (h₂ : (((r.assignment .definition).attempt p).run t₁).run s₁ = ((a₂, t₂), s₂)) :
    ((generate p params).run t).run s = ((.ok (r.report a₁ a₂), t₂), s₂) := by
  have hall : ((Job.run p ⟨r, r.assignments⟩).run t).run s =
      (([(r.assignment .declaration, a₁), (r.assignment .definition, a₂)], t₂), s₂) :=
    (run_run_bind h₁).trans (run_run_bind ((run_run_bind h₂).trans rfl))
  rw [generate, Job.ofParams_accepted h]
  exact run_run_bind hall

theorem generate_accepted (p : Provider (StateM σ) S) {r : Request} {params : Params}
    (h : r.Accepted params) (s : σ) : ∃ a₁ a₂ s' c₁ c₂,
      (generate p params).run s = (.ok (r.report a₁ a₂), s') ∧
      ((generate p.logged params).run []).run s = ((.ok (r.report a₁ a₂), c₁ ++ c₂), s') ∧
      Visit (r.path .declaration) (r.fragments .declaration) c₁ a₁ ∧
      Visit (r.path .definition) (r.fragments .definition) c₂ a₂ := by
  obtain ⟨a₁, s₁, c₁, hp₁, hl₁, hv₁⟩ :=
    logged_attempt p (a := r.assignment .declaration) (r.fragments_derived .declaration) [] s
  obtain ⟨a₂, s₂, c₂, hp₂, hl₂, hv₂⟩ :=
    logged_attempt p (a := r.assignment .definition) (r.fragments_derived .definition) c₁ s₁
  exact ⟨a₁, a₂, s₂, c₁, c₂, generate_run h hp₁ hp₂, generate_run_run h hl₁ hl₂, hv₁, hv₂⟩

theorem generate_rejected [Monad m] (p : Provider m S) {params : Params} {failure : Failure}
    (h : Request.Rejected params failure) : generate p params = pure (.error failure) := by
  rw [generate, Job.ofParams_rejected h]

theorem calls_rejected (p : Provider (StateM σ) S) {params : Params} {failure : Failure}
    (h : Request.Rejected params failure) (s : σ) : calls p params s = [] := by
  rw [calls, generate_rejected _ h]
  rfl

/-- The log changes nothing: the logged run is the run itself, together with its calls. -/
theorem generate_logged (p : Provider (StateM σ) S) (params : Params) (s : σ) :
    ((generate p.logged params).run []).run s =
      ((((generate p params).run s).1, calls p params s), ((generate p params).run s).2) := by
  -- a rejected mapping makes no call; for an accepted one both runs were built side by side
  rcases Job.accepted_or_rejected params with ⟨r, h⟩ | ⟨failure, h⟩
  · obtain ⟨a₁, a₂, s', c₁, c₂, hp, hl, -, -⟩ := generate_accepted p h s
    rw [calls, hp, hl]
  · rw [calls_rejected p h, generate_rejected _ h, generate_rejected _ h]
    rfl

/-! ### The protocol -/

/-- Where a provider stands: no sink is open, one is open that has taken everything so far, or one
is open that has refused a text. -/
inductive Phase (S : Type) where
  | idle
  | writing (sink : S)
  | broken (sink : S)

/-- The calls that are in place in a phase, and the phase after them. A sink is known by what it has
become in the call before. -/
inductive Phase.Allows : Phase S → Call S → Phase S → Prop where
  | opened (path : String) (k : S) : Allows .idle (.opened path (.opened k)) (.writing k)
  | declined (path : String) : Allows .idle (.opened path .declined) .idle
  | unavailable (path : String) (failure : Failure) :
      Allows .idle (.opened path (.failed failure)) .idle
  | taken (k k' : S) (f : String) : Allows (.writing k) (.appended k f (.ok ()) k') (.writing k')
  | refused (k k' : S) (f : String) (failure : Failure) :
      Allows (.writing k) (.appended k f (.error failure) k') (.broken k')
  | released (k : S) (answer : Except Failure Unit) :
      Allows (.writing k) (.released k answer) .idle
  | abandoned (k : S) (answer : Except Failure Unit) :
      Allows (.broken k) (.released k answer) .idle

/-- A row of calls of which each is in place. -/
inductive Conversation : Phase S → List (Call S) → Phase S → Prop where
  | nil (phase : Phase S) : Conversation phase [] phase
  | cons {phase phase' phase'' : Phase S} {c : Call S} {cs : List (Call S)}
      (first : phase.Allows c phase') (rest : Conversation phase' cs phase'') :
      Conversation phase (c :: cs) phase''

theorem Conversation.append {a b c : Phase S} {xs ys : List (Call S)}
    (h : Conversation a xs b) (h' : Conversation b ys c) : Conversation a (xs ++ ys) c := by
  induction h with
  | nil => exact h'
  | cons first _ ih => exact .cons first (ih h')

theorem Appends.conversation {fs : List String} {k k' : S} {cs : List (Call S)}
    {result : Except Failure Nat} (h : Appends fs k cs k' result) :
    Conversation (.writing k) cs (.writing k') ∨ Conversation (.writing k) cs (.broken k') := by
  induction h with
  | done k => exact Or.inl (.nil _)
  | refused f fs k k' failure => exact Or.inr (.cons (.refused ..) (.nil _))
  | taken _ ih => exact ih.imp (.cons (.taken ..)) (.cons (.taken ..))

theorem Visit.conversation {path : String} {fs : List String} {cs : List (Call S)}
    {a : Attempt} (h : Visit path fs cs a) : Conversation .idle cs .idle := by
  cases h with
  | declined => exact .cons (.declined path) (.nil _)
  | unavailable failure => exact .cons (.unavailable path failure) (.nil _)
  | used appends released =>
    rcases appends.conversation with h | h
    · exact .cons (.opened ..) (h.append (.cons (.released ..) (.nil _)))
    · exact .cons (.opened ..) (h.append (.cons (.abandoned ..) (.nil _)))

/-- The path that a call asks to open. -/
def Call.path? : Call S → Option String
  | .opened path _ => some path
  | _ => none

theorem Appends.paths {fs : List String} {k k' : S} {cs : List (Call S)}
    {result : Except Failure Nat} (h : Appends fs k cs k' result) :
    cs.filterMap Call.path? = [] := by
  induction h with
  | done k => rfl
  | refused f fs k k' failure => rfl
  | taken _ ih => exact ih

theorem Visit.paths {path : String} {fs : List String} {cs : List (Call S)} {a : Attempt}
    (h : Visit path fs cs a) : cs.filterMap Call.path? = [path] := by
  cases h with
  | declined => rfl
  | unavailable failure => rfl
  | used appends released =>
    rw [List.filterMap_append, List.filterMap_cons, appends.paths]
    rfl

/-- A generation opens a sink for each artifact in turn, whatever came before. If one is opened, the
fragments of the text are appended to it in order, until all are or one is refused, and it is
released once before the next is asked for. -/
theorem generate_keeps_protocol (p : Provider (StateM σ) S) {r : Request} {params : Params}
    (h : r.Accepted params) (s : σ) :
    Conversation .idle (calls p params s) .idle ∧
      (calls p params s).filterMap Call.path? = [r.path .declaration, r.path .definition] ∧
      ∃ a₁ a₂ c₁ c₂, calls p params s = c₁ ++ c₂ ∧
        ((generate p params).run s).1 = .ok (r.report a₁ a₂) ∧
        Visit (r.path .declaration) (r.fragments .declaration) c₁ a₁ ∧
        Visit (r.path .definition) (r.fragments .definition) c₂ a₂ := by
  obtain ⟨a₁, a₂, s', c₁, c₂, hp, hl, hv₁, hv₂⟩ := generate_accepted p h s
  have hc : calls p params s = c₁ ++ c₂ := by rw [calls, hl]
  have hr : ((generate p params).run s).1 = .ok (r.report a₁ a₂) := by rw [hp]
  refine ⟨?_, ?_, a₁, a₂, c₁, c₂, hc, hr, hv₁, hv₂⟩
  · rw [hc]
    exact hv₁.conversation.append hv₂.conversation
  · rw [hc, List.filterMap_append, hv₁.paths, hv₂.paths]
    rfl

/-- The declaration's sink is full after forty bytes, and the definition's cannot be released. -/
theorem generate_keeps_protocol_scripted :
    let r : Request := ⟨"a", true, ["B"], "h", "c"⟩
    let script (path : String) : PathScript :=
      if path = "a_backend.h" then { PathScript.willing with budget := some 40 }
      else { PathScript.willing with releaseFailure := some (.io .denied) }
    let p := ScriptedProvider.provider script
    r.Accepted r.asParams ∧ Conversation .idle (calls p r.asParams []) .idle ∧
      (calls p r.asParams []).filterMap Call.path? = ["a_backend.h", "a_backend.c"] ∧
      ∃ a₁ a₂ c₁ c₂, calls p r.asParams [] = c₁ ++ c₂ ∧
        ((generate p r.asParams).run []).1 = .ok (r.report a₁ a₂) ∧
        Visit "a_backend.h" (r.fragments .declaration) c₁ a₁ ∧
        Visit "a_backend.c" (r.fragments .definition) c₂ a₂ := by
  intro r script p
  have hv : (⟨"a", true, ["B"], "h", "c"⟩ : Request).validate = .ok () := rfl
  have h : r.Accepted r.asParams := Request.accepted_asParams hv
  exact ⟨h, generate_keeps_protocol p h []⟩

end Scaffold
