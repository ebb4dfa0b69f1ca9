import Scaffold.Proofs.Recovery
import Scaffold.Proofs.Stores
import Scaffold.Proofs.Tables

/-!
A store in memory over many generations.

How an attempt ends depends on what the store refuses, never on what it holds. So after any number
of generations the store holds the last text that was written under each path, and nothing that it
refuses. Generations of different names share no path, so they may change places.
-/
namespace Scaffold

variable {m : Type → Type} {S : Type} {store : MemoryStore} {r : Request} {params : Params}
  {path : String}

/-- Names that a file can have are the same path only if they are equal. -/
theorem Path.separates_plain : Table.Separates Path.order Path.Plain :=
  fun _ _ hp hq h => (hp.order_eq_iff hq).1 h

/-- The texts that a request writes according to a report, each under its path. -/
def Request.writes (r : Request) (report : Report) : List (String × String) :=
  report.written.map fun o => (o.path, r.text o.kind)

namespace MemoryStore

/-! ### One artifact -/

/-- The store gives out a sink for a path. -/
def Accepts (store : MemoryStore) (path : String) : Prop :=
  store.openSink path = .opened ⟨path, ""⟩

/-- How the attempt to put a text under a path ends. -/
def verdict (store : MemoryStore) (path text : String) : Attempt :=
  match store.openSink path with
  | .declined => .declined
  | .failed failure => .unavailable failure
  | .opened _ => .written text.utf8ByteSize

/-- What an outcome makes of a store: a text that was written is put under its path, and nothing
changes otherwise. -/
def record (r : Request) (store : MemoryStore) (o : Outcome) : MemoryStore :=
  if o.status.isWritten then store.release ⟨o.path, r.text o.kind⟩ else store

theorem accepts_of_isWritten {text : String}
    (h : (store.verdict path text).status.isWritten = true) : store.Accepts path := by
  rw [verdict] at h
  cases ho : store.openSink path with
  | declined =>
    rw [ho] at h
    cases h
  | failed failure =>
    rw [ho] at h
    cases h
  | opened k =>
    cases eq_of_openSink ho
    exact ho

/-- An attempt comes to the verdict on its path, and its outcome is recorded. -/
theorem run_attempt (r : Request) (kind : ArtifactKind) (store : MemoryStore) :
    ((r.assignment kind).attempt provider).run store =
      (store.verdict (r.path kind) (r.text kind), record r store
        ⟨kind, r.path kind, (store.verdict (r.path kind) (r.text kind)).status⟩) := by
  have hrun : (provider.openSink (r.path kind)).run store =
    (store.openSink (r.path kind), store) := rfl
  rw [verdict]
  cases ho : store.openSink (r.path kind) with
  | declined =>
    rw [ho] at hrun
    exact run_bind hrun
  | failed failure =>
    rw [ho] at hrun
    exact run_bind hrun
  | opened k =>
    cases eq_of_openSink ho
    exact run_attempt_opened (a := r.assignment kind) (r.fragments_derived kind) ho

/-! ### One generation -/

/-- What is reported of a request. -/
def report (store : MemoryStore) (r : Request) : Report :=
  r.report (store.verdict (r.path .declaration) (r.text .declaration))
    (store.verdict (r.path .definition) (r.text .definition))

/-- The store once texts have been put under their paths, one after the other. -/
def publish (store : MemoryStore) (writes : List (String × String)) : MemoryStore :=
  { store with artifacts := Table.insertAll Path.order store.artifacts writes }

theorem publish_append (store : MemoryStore) (ws ws' : List (String × String)) :
    store.publish (ws ++ ws') = (store.publish ws).publish ws' := by
  simp only [publish, Table.insertAll, List.foldl_append]

/-- What is recorded in a store makes no difference to what it refuses. -/
theorem verdict_record (o : Outcome) (path text : String) :
    (record r store o).verdict path text = store.verdict path text := by
  rw [record]
  split <;> rfl

theorem foldl_record (r : Request) (store : MemoryStore) (report : Report) :
    report.outcomes.foldl (record r) store = store.publish (r.writes report) := by
  obtain ⟨os⟩ := report
  induction os generalizing store with
  | nil => rfl
  | cons o os ih =>
    rw [List.foldl_cons, ih, record]
    cases ho : o.status.isWritten with
    | false => simp [Request.writes, Report.written, ho]
    | true => simp [Request.writes, Report.written, ho, publish, Table.insertAll, release]

theorem report_publish (store : MemoryStore) (ws : List (String × String)) (r : Request) :
    (store.publish ws).report r = store.report r := rfl

theorem run_generate (h : r.Accepted params) (store : MemoryStore) :
    (generate provider params).run store =
      (.ok (store.report r), (store.report r).outcomes.foldl (record r) store) := by
  have hdecl := run_attempt r .declaration store
  have hdef := run_attempt r .definition (record r store
    ⟨.declaration, r.path .declaration,
      (store.verdict (r.path .declaration) (r.text .declaration)).status⟩)
  -- what the declaration has left refuses the same paths
  rw [verdict_record] at hdef
  exact generate_run h hdecl hdef

/-- What a generation makes of a store. A mapping that is refused changes nothing, and so does every
outcome but those that were written. -/
structure Recorded (before : MemoryStore) (params : Params) (result : Except Failure Report)
    (after : MemoryStore) : Prop where
  refused : ∀ failure, result = .error failure → after = before
  recorded : ∀ report, result = .ok report →
    ∃ r : Request, r.Accepted params ∧ after = report.outcomes.foldl (record r) before

theorem recorded_generate (params : Params) (store : MemoryStore) :
    Recorded store params ((generate provider params).run store).1
      ((generate provider params).run store).2 := by
  rcases Job.accepted_or_rejected params with ⟨r, h⟩ | ⟨failure, h⟩
  · rw [run_generate h store]
    constructor
    · intro failure hr
      cases hr
    · intro report hr
      cases hr
      exact ⟨r, h, rfl⟩
  · rw [generate_rejected provider h]
    constructor
    · intro _ _
      rfl
    · intro report hr
      cases hr

end MemoryStore

/-! ### Generations in a row -/

/-- Generates a backend from each mapping in turn, and gives each result with its mapping. -/
def generateAll [Monad m] (p : Provider m S) :
    List Params → m (List (Params × Except Failure Report))
  | [] => pure []
  | params :: ps => do
    let result ← generate p params
    let rest ← generateAll p ps
    pure ((params, result) :: rest)

/-- The paths that a generation reports as written. -/
def reported : Params × Except Failure Report → List String
  | (_, .ok report) => report.written.map Outcome.path
  | (_, .error _) => []

/-- The texts that a generation writes, each under its path. -/
def published : Params × Except Failure Report → List (String × String)
  | (params, .ok report) =>
    match Request.ofParams params with
    | .ok r => r.writes report
    | .error _ => []
  | (_, .error _) => []

namespace MemoryStore

theorem published_report (h : r.Accepted params) (report : Report) :
    published (params, .ok report) = r.writes report := by
  rw [published, h.read]

theorem mem_writes_report {w : String × String} (h : w ∈ r.writes (store.report r)) :
    (∃ kind, w = (r.path kind, r.text kind)) ∧ store.Accepts w.1 := by
  obtain ⟨o, ho, rfl⟩ := List.mem_map.1 h
  obtain ⟨ho, hw⟩ := List.mem_filter.1 ho
  rcases List.mem_cons.1 ho with rfl | ho
  · exact ⟨⟨.declaration, rfl⟩, accepts_of_isWritten hw⟩
  · cases List.mem_singleton.1 ho
    exact ⟨⟨.definition, rfl⟩, accepts_of_isWritten hw⟩

/-- A generation puts its texts into the store, under names that the store accepts. -/
structure Publishes (store : MemoryStore) (run : Params × Except Failure Report) : Prop where
  paths : (published run).map Prod.fst = reported run
  plain : ∀ w ∈ published run, Path.Plain w.1
  accepted : ∀ w ∈ published run, store.Accepts w.1

theorem run_generate_published (params : Params) (store : MemoryStore) : ∃ result,
    (generate provider params).run store = (result, store.publish (published (params, result))) ∧
      store.Publishes (params, result) := by
  rcases Job.accepted_or_rejected params with ⟨r, h⟩ | ⟨failure, h⟩
  · have hp := published_report h (store.report r)
    refine ⟨.ok (store.report r), ?_, ?_⟩
    · rw [run_generate h store, foldl_record, hp]
    · refine ⟨?_, fun w hw => ?_, fun w hw => ?_⟩
      · rw [hp, Request.writes, reported, List.map_map]
        rfl
      · rw [hp] at hw
        obtain ⟨⟨kind, rfl⟩, -⟩ := mem_writes_report hw
        exact h.plain_path kind
      · rw [hp] at hw
        exact (mem_writes_report hw).2
  · refine ⟨.error failure, ?_, ?_⟩
    · rw [generate_rejected provider h]
      rfl
    · exact ⟨rfl, List.forall_mem_nil _, List.forall_mem_nil _⟩

theorem run_generateAll (ps : List Params) (store : MemoryStore) : ∃ runs,
    (generateAll provider ps).run store = (runs, store.publish (runs.flatMap published)) ∧
      runs.map Prod.fst = ps ∧ ∀ run ∈ runs, store.Publishes run := by
  -- a generation leaves the refusals as they are, so the next one finds the same ones
  induction ps generalizing store with
  | nil => exact ⟨[], rfl, rfl, List.forall_mem_nil _⟩
  | cons params ps ih =>
    obtain ⟨result, hrun, hpublishes⟩ := run_generate_published params store
    obtain ⟨runs, hrest, hps, hall⟩ := ih (store.publish (published (params, result)))
    refine ⟨(params, result) :: runs, ?_, ?_, List.forall_mem_cons.2 ⟨hpublishes, fun run h => ?_⟩⟩
    · rw [List.flatMap_cons, publish_append]
      exact (run_bind hrun).trans (run_bind hrest)
    · rw [List.map_cons, hps]
    · exact ⟨(hall run h).paths, (hall run h).plain, (hall run h).accepted⟩

/-! ### What a store holds in the end -/

theorem Accepts.order_ne {refused : String} (h : store.Accepts path)
    (hr : refused ∈ store.declined ++ store.unavailable) : Path.order refused path ≠ .eq := by
  intro horder
  have hsame : Path.same path refused = true := decide_eq_true (Path.order_eq_iff.1 horder).symm
  rw [Accepts, openSink] at h
  rcases List.mem_append.1 hr with hr | hr
  · rw [if_pos (List.any_eq_true.2 ⟨refused, hr, hsame⟩)] at h
    cases h
  · split at h
    · cases h
    · rw [if_pos (List.any_eq_true.2 ⟨refused, hr, hsame⟩)] at h
      cases h

theorem get?_publish_of_ne {ws : List (String × String)} (hne : ∀ w ∈ ws, Path.order path w.1 ≠ .eq)
    (h : store.get? path = none) : (store.publish ws).get? path = none := by
  induction ws generalizing store with
  | nil => exact h
  | cons w ws ih =>
    obtain ⟨hw, hne⟩ := List.forall_mem_cons.1 hne
    have hrelease : (store.release ⟨w.1, w.2⟩).get? path = none := by
      rw [get?_release, if_neg hw, h]
    exact ih hne hrelease

end MemoryStore

/-- Whatever mappings a backend is generated from, one after the other: an empty store ends up with
just the paths that were reported as written, each with the text that was written last, and without
any that it refuses. What a run makes of the store is what its outcomes record. -/
theorem generateAll_published (declined unavailable : List String) (ps : List Params) :
    ∃ runs store, (generateAll MemoryStore.provider ps).run (.refusing declined unavailable) =
        (runs, store) ∧ runs.map Prod.fst = ps ∧
      (∀ path, path ∈ store.paths ↔ ∃ run ∈ runs, path ∈ reported run) ∧
      (∀ entry, entry ∈ store.artifacts ↔ entry ∈ Table.lasts (runs.flatMap published)) ∧
      (∀ path ∈ declined ++ unavailable, store.get? path = none) ∧
      ∀ before params, MemoryStore.Recorded before params
        ((generate MemoryStore.provider params).run before).1
        ((generate MemoryStore.provider params).run before).2 := by
  obtain ⟨runs, hrun, hps, hall⟩ :=
    MemoryStore.run_generateAll ps (.refusing declined unavailable)
  have hwrites {w : String × String} (hw : w ∈ runs.flatMap published) :
      ∃ run ∈ runs, w ∈ published run := List.mem_flatMap.1 hw
  have hplain : ∀ w ∈ runs.flatMap published, Path.Plain w.1 := by
    intro w hw
    obtain ⟨run, hmem, hw⟩ := hwrites hw
    exact (hall run hmem).plain w hw
  have hartifacts (entry : String × String) :
      entry ∈ Table.insertAll Path.order [] (runs.flatMap published) ↔
        entry ∈ Table.lasts (runs.flatMap published) := by
    rw [Table.mem_insertAll Path.separates_plain Table.ascending_nil (List.forall_mem_nil _) hplain]
    simp
  refine ⟨runs, _, hrun, hps, fun path => ?_, hartifacts, fun path hpath => ?_,
    fun before params => MemoryStore.recorded_generate params before⟩
  · calc path ∈ (Table.insertAll Path.order [] (runs.flatMap published)).map Prod.fst
      _ ↔ path ∈ (Table.lasts (runs.flatMap published)).map Prod.fst := by
        rw [List.mem_map, List.mem_map]
        exact exists_congr fun entry => and_congr_left' (hartifacts entry)
      _ ↔ path ∈ (runs.flatMap published).map Prod.fst := Table.mem_keys_lasts
      _ ↔ ∃ run ∈ runs, path ∈ (published run).map Prod.fst := by
        rw [List.map_flatMap, List.mem_flatMap]
      _ ↔ ∃ run ∈ runs, path ∈ reported run := by
        refine exists_congr fun run => and_congr_right fun hmem => ?_
        rw [(hall run hmem).paths]
  · apply MemoryStore.get?_publish_of_ne
    · intro w hw
      obtain ⟨run, hmem, hw⟩ := hwrites hw
      exact ((hall run hmem).accepted w hw).order_ne hpath
    · rfl

/-! ### Generations that change places -/

namespace MemoryStore

/-- Texts under other paths can be published before or after. -/
theorem publish_comm {ws ws' : List (String × String)}
    (h : ∀ w ∈ ws, ∀ w' ∈ ws', Path.order w.1 w'.1 ≠ .eq) (store : MemoryStore) :
    (store.publish ws).publish ws' = (store.publish ws').publish ws := by
  simp only [publish, Table.insertAll_comm h]

end MemoryStore

/-- Two requests of different names can be generated in either order: each has the same report, and
the store is the same in the end, whatever it held before and whatever it refuses. -/
theorem generate_comm {r₁ r₂ : Request} {p₁ p₂ : Params} (h₁ : r₁.Accepted p₁)
    (h₂ : r₂.Accepted p₂) (hname : r₁.name ≠ r₂.name) (store : MemoryStore) :
    ∃ report₁ report₂ store₁ store₂ store',
      (generate MemoryStore.provider p₁).run store = (.ok report₁, store₁) ∧
      (generate MemoryStore.provider p₂).run store₁ = (.ok report₂, store') ∧
      (generate MemoryStore.provider p₂).run store = (.ok report₂, store₂) ∧
      (generate MemoryStore.provider p₁).run store₂ = (.ok report₁, store') := by
  have hpath (kind₁ kind₂ : ArtifactKind) :
      Path.order (r₁.path kind₁) (r₂.path kind₂) ≠ .eq := by
    intro h
    have hp := Path.separates_plain _ _ (h₁.plain_path kind₁) (h₂.plain_path kind₂) h
    exact hname (Request.path_inj h₁.valid h₂.valid hp).1
  have hne : ∀ w ∈ r₁.writes (store.report r₁), ∀ w' ∈ r₂.writes (store.report r₂),
      Path.order w.1 w'.1 ≠ .eq := by
    intro w hw w' hw'
    obtain ⟨⟨kind₁, rfl⟩, -⟩ := MemoryStore.mem_writes_report hw
    obtain ⟨⟨kind₂, rfl⟩, -⟩ := MemoryStore.mem_writes_report hw'
    exact hpath kind₁ kind₂
  -- neither report depends on what the other generation has put into the store
  have hrun₁ := MemoryStore.run_generate h₁
  have hrun₂ := MemoryStore.run_generate h₂
  simp only [MemoryStore.foldl_record] at hrun₁ hrun₂
  refine ⟨_, _, _, _, _, hrun₁ store, hrun₂ _, hrun₂ store, ?_⟩
  rw [hrun₁, MemoryStore.report_publish, MemoryStore.report_publish, MemoryStore.publish_comm hne]

/-- A name that is the path of another request's artifact, in a store that holds that artifact
already and declines one of the others. -/
theorem generate_comm_nested :
    let r₁ : Request := ⟨"a", true, ["B"], "h", "h"⟩
    let r₂ : Request := ⟨"a_backend.h", false, [], "h", "c"⟩
    let store : MemoryStore := ⟨[("a_backend.h", "old")], ["a_backend.h_backend.c"], []⟩
    r₁.Accepted r₁.asParams ∧ r₂.Accepted r₂.asParams ∧ r₁.name ≠ r₂.name ∧
      ∃ report₁ report₂ store₁ store₂ store',
        (generate MemoryStore.provider r₁.asParams).run store = (.ok report₁, store₁) ∧
        (generate MemoryStore.provider r₂.asParams).run store₁ = (.ok report₂, store') ∧
        (generate MemoryStore.provider r₂.asParams).run store = (.ok report₂, store₂) ∧
        (generate MemoryStore.provider r₁.asParams).run store₂ = (.ok report₁, store') := by
  intro r₁ r₂ store
  have hv₁ : (⟨"a", true, ["B"], "h", "h"⟩ : Request).validate = .ok () := rfl
  have hv₂ : (⟨"a_backend.h", false, [], "h", "c"⟩ : Request).validate = .ok () := rfl
  have h₁ : r₁.Accepted r₁.asParams := Request.accepted_asParams hv₁
  have h₂ : r₂.Accepted r₂.asParams := Request.accepted_asParams hv₂
  have hname : r₁.name ≠ r₂.name := by decide
  exact ⟨h₁, h₂, hname, generate_comm h₁ h₂ hname store⟩

end Scaffold
