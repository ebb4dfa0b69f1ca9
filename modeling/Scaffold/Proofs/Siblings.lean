import Scaffold.Proofs.Outcomes
import Scaffold.Sink.Memory

/-!
What becomes of one artifact does not depend on the other.

A provider may treat every path in its own way, as long as it does not let one path have a say in
another. Then all that shows of the calls for an artifact, and what is reported of it, is settled by
the way its path is treated, even from one provider to another.
-/
namespace Scaffold

variable {σ τ S T : Type} {p : Provider (StateM σ) S} {p' : Provider (StateM τ) T}
  {path : String} {fs texts : List String} {r : Request} {params : Params}

/-- What shows of a call: everything but the sink. -/
inductive Event where
  | opened (path : String) (answer : Opening Unit)
  | appended (text : String) (answer : Except Failure Unit)
  | released (answer : Except Failure Unit)

/-- An answer without the sink. -/
def Opening.bare : Opening S → Opening Unit
  | .opened _ => .opened ()
  | .declined => .declined
  | .failed failure => .failed failure

def Call.event : Call S → Event
  | .opened path answer => .opened path answer.bare
  | .appended _ text answer _ => .appended text answer
  | .released _ answer => .released answer

/-- The text that a sink was given and took. -/
def Event.taken? : Event → Option String
  | .appended text (.ok _) => some text
  | _ => none

theorem Call.taken?_eq (c : Call S) : c.taken? = c.event.taken? := by
  cases c with
  | opened => rfl
  | appended _ _ answer _ => cases answer <;> rfl
  | released => rfl

/-! ### Paths by themselves -/

/-- How a path is treated: what comes of asking for a sink, of a text after those that the sink was
offered before, and of releasing the sink after them. -/
structure Treatment where
  opening : Opening Unit
  append : (before : List String) → (text : String) → Except Failure Unit
  release : (before : List String) → Except Failure Unit

/-- A provider that treats each path by itself. A state is ready for the next sink, or the sink of
a path has been offered some texts in it; the answers depend on no more than the path and these. -/
structure Separate (p : Provider (StateM σ) S) where
  treatment : String → Treatment
  ready : σ → Prop
  offered : σ → S → String → List String → Prop
  opens : ∀ (path : String) (s : σ), ready s → ∃ answer s',
    (p.openSink path).run s = (answer, s') ∧ answer.bare = (treatment path).opening ∧
      (∀ k, answer = .opened k → offered s' k path []) ∧
      ((treatment path).opening ≠ .opened () → ready s')
  appends : ∀ (text : String) (s : σ) (k : S) (path : String) (texts : List String),
    offered s k path texts → ∃ k' s',
      (p.append k text).run s = (((treatment path).append texts text, k'), s') ∧
      offered s' k' path (texts ++ [text])
  releases : ∀ (s : σ) (k : S) (path : String) (texts : List String),
    offered s k path texts → ∃ s',
      (p.release k).run s = ((treatment path).release texts, s') ∧ ready s'

namespace Treatment

/-- Appending fragments after some texts has the same result and the same events wherever a path is
treated in this way. -/
def Writes (c : Treatment) (texts fs : List String) (result : Except Failure Nat)
    (events : List Event) (texts' : List String) : Prop :=
  ∀ {σ S : Type} {p : Provider (StateM σ) S} (hp : Separate p) {path : String} {s : σ} {k : S},
    hp.treatment path = c → hp.offered s k path texts → ∀ log, ∃ k' s' cs,
      ((p.logged.write fs k).run log).run s = (((result, k'), log ++ cs), s') ∧
      cs.map Call.event = events ∧ hp.offered s' k' path texts'

theorem exists_writes (c : Treatment) (texts fs : List String) :
    ∃ result events texts', c.Writes texts fs result events texts' := by
  -- each fragment is one more text that the sink has been offered
  induction fs generalizing texts with
  | nil =>
    refine ⟨.ok 0, [], texts, ?_⟩
    intro σ S p hp path s k _ hk log
    refine ⟨k, s, [], ?_, rfl, hk⟩
    rw [List.append_nil]
    rfl
  | cons f fs ih =>
    cases hanswer : c.append texts f with
    | error failure =>
      refine ⟨.error failure, [.appended f (.error failure)], texts ++ [f], ?_⟩
      intro σ S p hp path s k hc hk log
      obtain ⟨k', s', happend, hk'⟩ := hp.appends f s k path texts hk
      rw [hc, hanswer] at happend
      exact ⟨k', s', _, run_run_bind (logged_append happend log), rfl, hk'⟩
    | ok _ =>
      obtain ⟨result, events, texts', hrest⟩ := ih (texts ++ [f])
      refine ⟨result.map (f.utf8ByteSize + ·), .appended f (.ok ()) :: events, texts', ?_⟩
      intro σ S p hp path s k hc hk log
      obtain ⟨k₁, s₁, happend, hk₁⟩ := hp.appends f s k path texts hk
      rw [hc, hanswer] at happend
      have hfirst := logged_append happend log
      obtain ⟨k', s', cs, hwrite, hevents, hk'⟩ :=
        hrest hp hc hk₁ (log ++ [.appended k f (.ok ()) k₁])
      rw [List.append_assoc] at hwrite
      refine ⟨k', s', _, (run_run_bind hfirst).trans (run_run_bind hwrite), ?_, hk'⟩
      rw [List.map_append, hevents]
      rfl

/-- An attempt at an artifact ends in the same way, with the same events, wherever its path is
treated in this way. -/
def Attempts (c : Treatment) (path : String) (fs : List String) (attempt : Attempt)
    (events : List Event) : Prop :=
  ∀ {σ S : Type} {p : Provider (StateM σ) S} (hp : Separate p) {a : Assignment} {s : σ},
    hp.treatment path = c → a.path = path → a.body.fragments a.params = .ok fs → hp.ready s →
    ∀ log, ∃ s' cs, ((a.attempt p.logged).run log).run s = ((attempt, log ++ cs), s') ∧
      cs.map Call.event = events ∧ hp.ready s'

/-- A sink that is opened is written to and released. -/
theorem attempts_opened {c : Treatment} (hopening : c.opening = .opened ())
    {result : Except Failure Nat} {events : List Event} (hwrites : c.Writes [] fs result events texts)
    (path : String) : c.Attempts path fs (.ofResults result (c.release texts))
      (.opened path (.opened ()) :: events ++ [.released (c.release texts)]) := by
  intro σ S p hp a s hc hpath hf hs log
  obtain ⟨answer, s₁, hopen, hbare, hoffered, -⟩ := hp.opens a.path s hs
  rw [hpath, hc, hopening] at hbare
  cases answer with
  | opened k =>
    have hk : hp.offered s₁ k path [] := by
      rw [← hpath]
      exact hoffered k rfl
    have hfirst := logged_openSink hopen log
    obtain ⟨k', s₂, cs, hwrite, hevents, hk'⟩ :=
      hwrites hp hc hk (log ++ [.opened a.path (.opened k)])
    obtain ⟨s', hrelease, hready⟩ := hp.releases s₂ k' path texts hk'
    rw [hc] at hrelease
    have hlast := logged_release hrelease (log ++ [.opened a.path (.opened k)] ++ cs)
    rw [← Body.write_of_fragments hf] at hwrite
    refine ⟨s', .opened a.path (.opened k) :: cs ++ [.released k' (c.release texts)], ?_, ?_,
      hready⟩
    · have hlog : log ++ (.opened a.path (.opened k) :: cs ++ [.released k' (c.release texts)]) =
          log ++ [.opened a.path (.opened k)] ++ cs ++ [.released k' (c.release texts)] := by
        simp
      rw [hlog]
      exact (run_run_bind hfirst).trans ((run_run_bind hwrite).trans (run_run_bind hlast))
    · rw [hpath, List.map_append, List.map_cons, hevents]
      rfl
  | declined => cases hbare
  | failed failure => cases hbare

theorem exists_attempts (c : Treatment) (path : String) (fs : List String) :
    ∃ attempt events, c.Attempts path fs attempt events := by
  cases hopening : c.opening with
  | declined =>
    refine ⟨.declined, [.opened path .declined], ?_⟩
    intro σ S p hp a s hc hpath hf hs log
    obtain ⟨answer, s', hopen, hbare, -, hready⟩ := hp.opens a.path s hs
    rw [hpath, hc, hopening] at hbare hready
    cases answer with
    | declined =>
      refine ⟨s', _, run_run_bind (logged_openSink hopen log), ?_, hready (by simp)⟩
      rw [hpath]
      rfl
    | opened k => cases hbare
    | failed failure => cases hbare
  | failed failure =>
    refine ⟨.unavailable failure, [.opened path (.failed failure)], ?_⟩
    intro σ S p hp a s hc hpath hf hs log
    obtain ⟨answer, s', hopen, hbare, -, hready⟩ := hp.opens a.path s hs
    rw [hpath, hc, hopening] at hbare hready
    cases answer with
    | failed failure' =>
      cases hbare
      refine ⟨s', _, run_run_bind (logged_openSink hopen log), ?_, hready (by simp)⟩
      rw [hpath]
      rfl
    | opened k => cases hbare
    | declined => cases hbare
  | opened _ =>
    obtain ⟨result, events, texts, hwrites⟩ := c.exists_writes [] fs
    exact ⟨_, _, attempts_opened hopening hwrites path⟩

end Treatment

/-! ### Turns -/

/-- The calls for an artifact. A turn begins with each request for a sink, the declaration's with
the first one. -/
def turn : ArtifactKind → List (Call S) → List (Call S)
  | .declaration, cs => cs.take 1 ++ (cs.drop 1).takeWhile (·.path?.isNone)
  | .definition, cs => (cs.drop 1).dropWhile (·.path?.isNone)

/-- A visit begins with a request for a sink, and makes no other. -/
theorem Visit.exists_cons {cs : List (Call S)} {a : Attempt} (h : Visit path fs cs a) :
    ∃ answer rest, cs = .opened path answer :: rest ∧ ∀ c ∈ rest, c.path?.isNone = true := by
  cases h with
  | declined => exact ⟨_, [], rfl, List.forall_mem_nil _⟩
  | unavailable failure => exact ⟨_, [], rfl, List.forall_mem_nil _⟩
  | @used k k' cs' result appends released =>
    have hrest : ∀ c ∈ cs' ++ [.released k' released], c.path?.isNone = true := by
      refine List.forall_mem_append.2 ⟨?_, List.forall_mem_singleton.2 rfl⟩
      intro c hc
      obtain ⟨_, _, _, _, rfl⟩ := appends.mem hc
      rfl
    exact ⟨_, _, rfl, hrest⟩

theorem turn_append {path₁ path₂ : String} {fs₁ fs₂ : List String} {c₁ c₂ : List (Call S)}
    {a₁ a₂ : Attempt} (h₁ : Visit path₁ fs₁ c₁ a₁) (h₂ : Visit path₂ fs₂ c₂ a₂) :
    turn .declaration (c₁ ++ c₂) = c₁ ∧ turn .definition (c₁ ++ c₂) = c₂ := by
  obtain ⟨answer₁, rest₁, rfl, hrest₁⟩ := h₁.exists_cons
  obtain ⟨answer₂, rest₂, rfl, -⟩ := h₂.exists_cons
  -- only the first call of a visit asks for a sink, so the first turn ends where the second begins
  have hdrop : ((Call.opened path₁ answer₁ :: rest₁) ++ .opened path₂ answer₂ :: rest₂).drop 1 =
      rest₁ ++ .opened path₂ answer₂ :: rest₂ := rfl
  constructor
  · rw [turn, hdrop, List.takeWhile_append_of_pos hrest₁]
    have hstop : (Call.opened path₂ answer₂ :: rest₂).takeWhile (·.path?.isNone) = [] := rfl
    rw [hstop, List.append_nil]
    rfl
  · rw [turn, hdrop, List.dropWhile_append_of_pos hrest₁]
    rfl

/-! ### Generations -/

/-- What is reported of the artifact of a kind. -/
def Report.outcome? (report : Report) (kind : ArtifactKind) : Option Outcome :=
  report.outcomes.find? (·.kind = kind)

theorem Request.outcome?_report (r : Request) (a₁ a₂ : Attempt) :
    (r.report a₁ a₂).outcome? .declaration =
        some ⟨.declaration, r.path .declaration, a₁.status⟩ ∧
      (r.report a₁ a₂).outcome? .definition =
        some ⟨.definition, r.path .definition, a₂.status⟩ := ⟨rfl, rfl⟩

namespace Separate

theorem exists_visit (hp : Separate p) {c : Treatment} {a : Assignment} {attempt : Attempt}
    {events : List Event} (hc : c.Attempts a.path fs attempt events)
    (htreatment : hp.treatment a.path = c) (hf : a.body.fragments a.params = .ok fs) {s : σ}
    (hs : hp.ready s) (log : List (Call S)) : ∃ s' cs,
      ((a.attempt p.logged).run log).run s = ((attempt, log ++ cs), s') ∧
      cs.map Call.event = events ∧ hp.ready s' ∧ Visit a.path fs cs attempt := by
  obtain ⟨s', cs, hrun, hevents, hready⟩ := hc hp htreatment rfl hf hs log
  refine ⟨s', cs, hrun, hevents, hready, ?_⟩
  -- the calls of a visit are those of the only run there is
  obtain ⟨attempt', s'', cs', -, hlogged, hvisit⟩ := logged_attempt p hf log s
  rw [hrun] at hlogged
  have hattempt : attempt = attempt' := congrArg (fun x => x.1.1) hlogged
  have hlog : log ++ cs = log ++ cs' := congrArg (fun x => x.1.2) hlogged
  rw [hattempt, List.append_cancel_left hlog]
  exact hvisit

/-- The outcome and the events of an artifact are those that its path is treated with. -/
theorem generate_turn (hp : Separate p) (h : r.Accepted params) {s : σ} (hs : hp.ready s)
    {kind : ArtifactKind} {attempt : Attempt} {events : List Event}
    (hc : (hp.treatment (r.path kind)).Attempts (r.path kind) (r.fragments kind) attempt events) :
    ∃ report, ((generate p params).run s).1 = .ok report ∧
      report.outcome? kind = some ⟨kind, r.path kind, attempt.status⟩ ∧
      (turn kind (calls p params s)).map Call.event = events := by
  -- the other artifact comes to something too, which is of no account here
  have hother (kind' : ArtifactKind) : ∃ attempt' events',
      (hp.treatment (r.path kind')).Attempts (r.path kind') (r.fragments kind') attempt' events' ∧
        (kind' = kind → attempt' = attempt ∧ events' = events) := by
    by_cases hkind : kind' = kind
    · subst hkind
      exact ⟨attempt, events, hc, fun _ => ⟨rfl, rfl⟩⟩
    · obtain ⟨attempt', events', hc'⟩ :=
        (hp.treatment (r.path kind')).exists_attempts (r.path kind') (r.fragments kind')
      exact ⟨attempt', events', hc', fun heq => absurd heq hkind⟩
  obtain ⟨a₁, events₁, hc₁, hsame₁⟩ := hother .declaration
  obtain ⟨a₂, events₂, hc₂, hsame₂⟩ := hother .definition
  obtain ⟨s₁, c₁, hrun₁, hevents₁, hs₁, hvisit₁⟩ := hp.exists_visit
    (a := r.assignment .declaration) hc₁ rfl (r.fragments_derived .declaration) hs []
  obtain ⟨s₂, c₂, hrun₂, hevents₂, -, hvisit₂⟩ := hp.exists_visit
    (a := r.assignment .definition) hc₂ rfl (r.fragments_derived .definition) hs₁ c₁
  have hgenerate := generate_run_run h hrun₁ hrun₂
  rw [generate_logged] at hgenerate
  have hreport : ((generate p params).run s).1 = .ok (r.report a₁ a₂) :=
    congrArg (fun x => x.1.1) hgenerate
  have hcalls : calls p params s = c₁ ++ c₂ := congrArg (fun x => x.1.2) hgenerate
  obtain ⟨hturn₁, hturn₂⟩ := turn_append hvisit₁ hvisit₂
  obtain ⟨houtcome₁, houtcome₂⟩ := r.outcome?_report a₁ a₂
  refine ⟨r.report a₁ a₂, hreport, ?_⟩
  rw [hcalls]
  cases kind with
  | declaration =>
    obtain ⟨rfl, rfl⟩ := hsame₁ rfl
    rw [hturn₁]
    exact ⟨houtcome₁, hevents₁⟩
  | definition =>
    obtain ⟨rfl, rfl⟩ := hsame₂ rfl
    rw [hturn₂]
    exact ⟨houtcome₂, hevents₂⟩

end Separate

/-- The text that the sinks of some calls took. -/
def takenText (cs : List (Call S)) : String := String.join (cs.filterMap Call.taken?)

theorem takenText_eq (cs : List (Call S)) :
    takenText cs = String.join ((cs.map Call.event).filterMap Event.taken?) := by
  have hcalls : (Call.taken? : Call S → Option String) = Event.taken? ∘ Call.event :=
    funext Call.taken?_eq
  rw [takenText, List.filterMap_map, hcalls]

/-! ### Providers that keep paths apart -/

namespace BudgetSink

/-- A sink after texts that it was offered, whether it took them or not. -/
def offer (k : BudgetSink) (texts : List String) : BudgetSink :=
  texts.foldl (fun k text => (k.append text).2) k

theorem offer_append (k : BudgetSink) (texts : List String) (text : String) :
    k.offer (texts ++ [text]) = ((k.offer texts).append text).2 := by
  rw [offer, List.foldl_append]
  rfl

theorem path_append (k : BudgetSink) (text : String) : (k.append text).2.path = k.path := by
  rw [append]
  split <;> rfl

theorem path_offer (k : BudgetSink) (texts : List String) : (k.offer texts).path = k.path := by
  induction texts generalizing k with
  | nil => rfl
  | cons text texts ih => exact (ih _).trans (k.path_append text)

/-- Without a budget there is always room. -/
theorem append_unbounded {k : BudgetSink} (hk : k.left = none) (text : String) :
    k.append text = (.ok (), k.take text) := by
  rw [append, hk]
  rfl

theorem left_offer {k : BudgetSink} (hk : k.left = none) (texts : List String) :
    (k.offer texts).left = none := by
  induction texts generalizing k with
  | nil => exact hk
  | cons text texts ih =>
    have htaken : (k.take text).left = none := by
      rw [take, hk]
      rfl
    have hfirst : k.offer (text :: texts) = (k.take text).offer texts := by
      rw [offer, List.foldl_cons, append_unbounded hk]
      rfl
    rw [hfirst]
    exact ih htaken

end BudgetSink

/-- A script says of each path how it is treated. -/
def PathScript.treatment (script : PathScript) (path : String) : Treatment where
  opening :=
    if script.declines then .declined
    else match script.openFailure with
      | some failure => .failed failure
      | none => .opened ()
  append texts text := (((BudgetSink.empty path script.budget).offer texts).append text).1
  release _ := match script.releaseFailure with
    | some failure => .error failure
    | none => .ok ()

def ScriptedProvider.separate (script : String → PathScript) : Separate (provider script) where
  treatment path := (script path).treatment path
  ready _ := True
  offered _ k path texts := k = (BudgetSink.empty path (script path).budget).offer texts
  opens := by
    intro path log _
    refine ⟨_, _, rfl, ?_, ?_, fun _ => trivial⟩
    · rw [PathScript.treatment]
      cases (script path).declines with
      | true => rfl
      | false => cases (script path).openFailure <;> rfl
    · intro k
      cases (script path).declines with
      | true =>
        intro hk
        cases hk
      | false =>
        cases (script path).openFailure with
        | none =>
          intro hk
          exact (Opening.opened.inj hk).symm
        | some failure =>
          intro hk
          cases hk
  appends := by
    intro text log k path texts hk
    subst hk
    exact ⟨_, log, rfl, (BudgetSink.offer_append _ _ _).symm⟩
  releases := by
    intro log k path texts hk
    subst hk
    have hpath : ((BudgetSink.empty path (script path).budget).offer texts).path = path :=
      BudgetSink.path_offer _ texts
    have hrelease (k : BudgetSink) (hk : k.path = path) :
        (release script k).run log =
          (((script path).treatment path).release texts,
            .released k.path k.appends k.text :: log) := by
      rw [← hk]
      rfl
    exact ⟨_, hrelease _ hpath, trivial⟩

/-- The store in memory takes all texts for every path that it opens. -/
def MemoryStore.separate (declined unavailable : List String) : Separate provider where
  treatment path :=
    ⟨((refusing declined unavailable).openSink path).bare, fun _ _ => .ok (), fun _ => .ok ()⟩
  ready store := store.declined = declined ∧ store.unavailable = unavailable
  offered store _ _ _ := store.declined = declined ∧ store.unavailable = unavailable
  opens := by
    rintro path store ⟨rfl, rfl⟩
    exact ⟨_, _, rfl, rfl, fun _ _ => ⟨rfl, rfl⟩, fun _ => ⟨rfl, rfl⟩⟩
  appends := fun _ store k _ _ h => ⟨_, store, rfl, h⟩
  releases := fun store k _ _ h => ⟨store.release k, rfl, h⟩

/-! ### Two generations -/

/-- If two providers treat the path of an artifact alike, it has the same outcome with both, its
sink took the same text, and the same was asked and answered for it, whatever happens to the other
artifact. -/
theorem generate_separately (hp : Separate p) (hp' : Separate p') (h : r.Accepted params)
    {kind : ArtifactKind}
    (alike : hp.treatment (r.path kind) = hp'.treatment (r.path kind)) {s : σ} {s' : τ}
    (hs : hp.ready s) (hs' : hp'.ready s') :
    ∃ report report' o, ((generate p params).run s).1 = .ok report ∧
      ((generate p' params).run s').1 = .ok report' ∧
      report.outcome? kind = some o ∧ report'.outcome? kind = some o ∧
      (turn kind (calls p params s)).map Call.event =
        (turn kind (calls p' params s')).map Call.event ∧
      takenText (turn kind (calls p params s)) = takenText (turn kind (calls p' params s')) := by
  -- the treatment alone says how the attempt ends and what shows of it
  obtain ⟨attempt, events, hc⟩ :=
    (hp.treatment (r.path kind)).exists_attempts (r.path kind) (r.fragments kind)
  have hc' : (hp'.treatment (r.path kind)).Attempts (r.path kind) (r.fragments kind) attempt
      events := by
    rw [← alike]
    exact hc
  obtain ⟨report, hrun, ho, hevents⟩ := hp.generate_turn h hs hc
  obtain ⟨report', hrun', ho', hevents'⟩ := hp'.generate_turn h hs' hc'
  refine ⟨report, report', _, hrun, hrun', ho, ho', hevents.trans hevents'.symm, ?_⟩
  rw [takenText_eq, takenText_eq, hevents, hevents']

/-- A script by which the sink of the declaration is full after forty bytes and cannot be released
either, and a store in memory that declines the declaration. -/
theorem generate_separately_scripted :
    let r : Request := ⟨"a", true, ["B"], "h", "c"⟩
    let script (path : String) : PathScript :=
      if path = "a_backend.h" then ⟨false, none, some 40, some (.io .closed)⟩ else .willing
    let hp := ScriptedProvider.separate script
    let hp' := MemoryStore.separate ["a_backend.h"] []
    let store := MemoryStore.refusing ["a_backend.h"] []
    r.Accepted r.asParams ∧
      hp.treatment (r.path .definition) = hp'.treatment (r.path .definition) ∧ hp.ready [] ∧
      hp'.ready store ∧
      ∃ report report' o,
        ((generate (ScriptedProvider.provider script) r.asParams).run []).1 = .ok report ∧
        ((generate MemoryStore.provider r.asParams).run store).1 = .ok report' ∧
        report.outcome? .definition = some o ∧ report'.outcome? .definition = some o := by
  intro r script hp hp' store
  have hv : (⟨"a", true, ["B"], "h", "c"⟩ : Request).validate = .ok () := rfl
  have h : r.Accepted r.asParams := Request.accepted_asParams hv
  have hroom (texts : List String) (text : String) :
      (((BudgetSink.empty "a_backend.c" none).offer texts).append text).1 = .ok () := by
    have hleft := BudgetSink.left_offer (k := .empty "a_backend.c" none) rfl texts
    rw [BudgetSink.append_unbounded hleft]
  -- at the path of the definition both are willing to take everything
  have alike : hp.treatment (r.path .definition) = hp'.treatment (r.path .definition) := by
    have hscript : script (r.path .definition) = .willing := if_neg (by decide)
    have htreatment : hp.treatment (r.path .definition) =
        PathScript.willing.treatment (r.path .definition) :=
      congrArg (PathScript.treatment · (r.path .definition)) hscript
    have happend : (PathScript.willing.treatment (r.path .definition)).append =
        fun _ _ => .ok () := funext fun texts => funext (hroom texts)
    calc hp.treatment (r.path .definition)
        = ⟨.opened (), (PathScript.willing.treatment (r.path .definition)).append,
            fun _ => .ok ()⟩ := htreatment
      _ = ⟨(store.openSink (r.path .definition)).bare, fun _ _ => .ok (), fun _ => .ok ()⟩ := by
        have hopen : store.openSink (r.path .definition) = .opened ⟨r.path .definition, ""⟩ :=
          if_neg (by decide)
        rw [happend, hopen]
        rfl
      _ = hp'.treatment (r.path .definition) := rfl
  have hs : hp.ready [] := trivial
  have hs' : hp'.ready store := ⟨rfl, rfl⟩
  obtain ⟨report, report', o, hrun, hrun', ho, ho', -⟩ :=
    generate_separately hp hp' h alike hs hs'
  exact ⟨h, alike, hs, hs', report, report', o, hrun, hrun', ho, ho'⟩

end Scaffold
