import Scaffold.Cli.Run
import Scaffold.Proofs.Reading
import Scaffold.Proofs.Rehearsal

/-!
What the backend command does to a tree, and when it succeeds.

The command settles the configuration and the request before it touches anything. So a command that
is refused, or that is only to rehearse, leaves the tree as it was, and the exit status tells if
there was something to show for it in the end.
-/
namespace Scaffold

variable {t t' t'' : FileTree} {dir : String}

open FileTree (files)

/-! ### Generations under a policy -/

namespace FileTree

/-- A policy answers by itself, so a sink is asked for in the same way whatever state there is. -/
theorem yields_openSink (policy : OverwritePolicy) (dir name : String) (t : FileTree) :
    ∃ answer t',
      Yields (fun _ => (provider dir (Prompt.ofPolicy policy)).openSink name) t answer t' ∧
      ∀ k, answer = .opened k → ∃ handle, k = .create (Path.join dir name) handle := by
  have hopening (file : Except IoFault FileHandle) (k : FileSink FileHandle)
      (hk : OutputDirectory.opening (Path.join dir name) file = .opened k) :
      ∃ handle, k = .create (Path.join dir name) handle := by
    cases file with
    | ok handle => exact ⟨handle, (Opening.opened.inj hk).symm⟩
    | error fault => cases hk
  have hcreates := t.creates_createNew (Path.join dir name)
  rcases hc : t.createNew (Path.join dir name) with ⟨file, t₁⟩
  rw [hc] at hcreates
  by_cases hexists : file = .error .alreadyExists
  · -- something is there, and the policy answers for it
    subst hexists
    have hsame : t = t₁ := by
      cases hcreates with
      | refused => rfl
      | present => rfl
    subst hsame
    cases policy with
    | never => exact ⟨.declined, t, fun _ _ => run_openSink_asked hc rfl fun _ _ => rfl, by simp⟩
    | always =>
      rcases he : t.createEmpty (Path.join dir name) with ⟨file, t'⟩
      exact ⟨_, t', fun _ _ => run_openSink_asked hc rfl (yields_consented he), hopening file⟩
  · exact ⟨_, t₁, fun σ s => run_openSink_unasked hc hexists _ s, hopening file⟩

theorem yields_attempt {a : Assignment} {fs : List String}
    (hf : a.body.fragments a.params = .ok fs) (policy : OverwritePolicy) (dir : String)
    (t : FileTree) : ∃ attempt t',
      Yields (fun _ => a.attempt (provider dir (Prompt.ofPolicy policy))) t attempt t' := by
  obtain ⟨answer, t₁, hopen, hcreated⟩ := yields_openSink policy dir a.path t
  cases answer with
  | declined => exact ⟨_, t₁, hopen.bind fun _ _ => rfl⟩
  | failed failure => exact ⟨_, t₁, hopen.bind fun _ _ => rfl⟩
  | opened k =>
    obtain ⟨handle, rfl⟩ := hcreated k rfl
    obtain ⟨attempt, t', -, hrun⟩ := exists_attempt_opened hf dir _ handle t₁
    exact ⟨attempt, t', fun σ s => hrun σ _ t s s (hopen σ s)⟩

end FileTree

theorem Request.yields_run (r : Request) (policy : OverwritePolicy) (dir : String) (t : FileTree) :
    ∃ attempts t', Yields
      (fun _ => Job.run (FileTree.provider dir (Prompt.ofPolicy policy)) ⟨r, r.assignments⟩) t
        attempts t' := by
  obtain ⟨a₁, t₁, h₁⟩ := FileTree.yields_attempt (a := r.assignment .declaration)
    (r.fragments_derived .declaration) policy dir t
  obtain ⟨a₂, t₂, h₂⟩ := FileTree.yields_attempt (a := r.assignment .definition)
    (r.fragments_derived .definition) policy dir t₁
  have hrest : Yields (fun _ => Job.attemptAll (FileTree.provider dir (Prompt.ofPolicy policy))
      [r.assignment .definition]) t₁ [(r.assignment .definition, a₂)] t₂ :=
    h₂.bind fun _ _ => rfl
  exact ⟨_, t₂, h₁.bind (hrest.bind fun _ _ => rfl)⟩

/-! ### Configurations in trees -/

namespace FileTree

theorem exists_readText (t : FileTree) (path : String) :
    ∃ result, Yields (fun _ => files.readText path) t result t := by
  have hread : Yields (fun _ => files.readFile path) t (t.contents path) t := fun _ _ => rfl
  cases hcontents : t.contents path with
  | error fault =>
    rw [hcontents] at hread
    exact ⟨_, hread.bind fun _ _ => rfl⟩
  | ok bytes =>
    rw [hcontents] at hread
    cases htext : String.fromUTF8? bytes with
    | none =>
      refine ⟨.error .notText, hread.bind fun _ _ => ?_⟩
      simp only [htext]
      rfl
    | some text =>
      refine ⟨.ok text, hread.bind fun _ _ => ?_⟩
      simp only [htext]
      rfl

theorem exists_load (t : FileTree) (path : String) :
    ∃ result, Yields (fun _ => Config.load files path) t result t := by
  obtain ⟨text, hread⟩ := t.exists_readText path
  cases text with
  | error fault => exact ⟨_, hread.bind fun _ _ => rfl⟩
  | ok text => exact ⟨_, hread.bind fun _ _ => rfl⟩

theorem exists_loadIfThere (t : FileTree) (path : String) :
    ∃ found?, Yields (fun _ => Config.loadIfThere files path) t found? t := by
  have hthere : Yields (fun _ => files.pathExists path) t (t.pathExists path) t := fun _ _ => rfl
  cases hexists : t.pathExists path with
  | false =>
    rw [hexists] at hthere
    exact ⟨_, hthere.bind fun _ _ => rfl⟩
  | true =>
    rw [hexists] at hthere
    obtain ⟨result, hload⟩ := t.exists_load path
    have hsome : Yields (fun _ => do
        let result ← Config.load files path
        pure (some result)) t (some result) t := hload.bind fun _ _ => rfl
    exact ⟨_, hthere.bind hsome⟩

/-- The configuration in force, if it can be loaded. -/
def config (t : FileTree) (path : String) : Except Failure Config :=
  (((Config.loadOrStandard files path).run t).run ()).1.1

theorem config_eq {found? : Option (Except Failure Config)} {path : String}
    (h : Yields (fun _ => Config.loadIfThere files path) t found? t) :
    t.config path = found?.getD (.ok .standard) := by
  have hload : Yields (fun _ => Config.loadOrStandard files path) t
      (found?.getD (.ok .standard)) t := h.bind fun _ _ => rfl
  exact congrArg (fun x => x.1.1) (hload Unit ())

/-- Where nothing is found, the standard configuration is in force. -/
theorem config_absent {path : String} {location : Location} (hcheck : checkPath path = .ok ())
    (hfree : t.Follows ⟨true, false⟩ mostLinks (origin t.workingDirectory path) (steps path)
      (.free location)) : t.config path = .ok .standard := by
  have habsent : t.pathExists path = false := by
    rw [pathExists, status, resolve_eq_ok_iff_follows.2 ⟨hcheck, hfree⟩]
    rfl
  have hthere : Yields (fun _ => files.pathExists path) t false t :=
    fun _ s => congrArg (fun there => ((there, t), s)) habsent
  exact config_eq (hthere.bind fun _ _ => rfl)

end FileTree

theorem bind_eq_error_iff {ε α β : Type} {x : Except ε α} {f : α → Except ε β} {e : ε} :
    (x >>= f) = .error e ↔ x = .error e ∨ ∃ a, x = .ok a ∧ f a = .error e := by
  cases x with
  | error e' => simp [bind, Except.bind]
  | ok a => simp [bind, Except.bind]

namespace Cli

/-! ### Printing -/

/-- An action on a tree, whatever has been printed before and whatever it prints itself. -/
def Does {α : Type} (x : StateT FileTree (StateM Transcript) α) (t : FileTree) (a : α)
    (t' : FileTree) : Prop :=
  ∀ printed, ∃ printed', (x.run t).run printed = ((a, t'), printed')

variable {α β : Type} {a : α} {b : β}

theorem Does.of_yields {x : TreeAction α} (h : Yields x t a t') : Does (x Transcript) t a t' :=
  fun printed => ⟨printed, h Transcript printed⟩

theorem Does.bind {x : StateT FileTree (StateM Transcript) α}
    {f : α → StateT FileTree (StateM Transcript) β} (hx : Does x t a t')
    (hf : Does (f a) t' b t'') : Does (x >>= f) t b t'' := by
  intro printed
  obtain ⟨printed₁, hx⟩ := hx printed
  obtain ⟨printed₂, hf⟩ := hf printed₁
  exact ⟨printed₂, (run_run_bind hx).trans hf⟩

section Complaints

variable {x : StateT FileTree (StateM Transcript) α}
  {y : ExceptT Complaint (StateT FileTree (StateM Transcript)) α}
  {f : α → ExceptT Complaint (StateT FileTree (StateM Transcript)) β}
  {result : Except Complaint β} {complaint : Complaint}

theorem Does.bind_ok (hy : Does y.run t (.ok a) t') (hf : Does (f a).run t' result t'') :
    Does (y >>= f).run t result t'' := by
  have hcont : Does (ExceptT.bindCont f (.ok a)) t' result t'' := hf
  exact hy.bind hcont

theorem Does.bind_error (hy : Does y.run t (.error complaint) t') :
    Does (y >>= f).run t (.error complaint) t' := by
  have hcont : Does (ExceptT.bindCont f (.error complaint)) t' (.error complaint) t' :=
    fun printed => ⟨printed, rfl⟩
  exact hy.bind hcont

theorem Does.lift (hx : Does x t a t') :
    Does (liftM x : ExceptT Complaint (StateT FileTree (StateM Transcript)) α).run t (.ok a)
      t' := by
  intro printed
  obtain ⟨printed', hx⟩ := hx printed
  -- what is lifted does not fail, so all that is done to its result is to say so
  have hok := run_bind (f := fun (p : α × FileTree) =>
    (pure (.ok p.1, p.2) : StateM Transcript (Except Complaint α × FileTree))) hx
  exact ⟨printed', hok⟩

end Complaints

/-- An action that leaves the tree alone. -/
def Quiet (x : StateT FileTree (StateM Transcript) Unit) : Prop := ∀ t, Does x t () t

theorem Quiet.bind {x : StateT FileTree (StateM Transcript) Unit}
    {f : Unit → StateT FileTree (StateM Transcript) Unit} (hx : Quiet x) (hf : Quiet (f ())) :
    Quiet (x >>= f) := fun t => (hx t).bind (hf t)

theorem quiet_pure : Quiet (pure ()) := fun _ printed => ⟨printed, rfl⟩

/-- The session of the program on a tree. -/
def treeSession (verbosity : Nat) : Session (StateT FileTree (StateM Transcript)) FileHandle :=
  { treeHost with verbosity := verbosity }

section Session

variable (verbosity : Nat)

theorem quiet_out (text : String) : Quiet ((treeSession verbosity).out text) :=
  fun _ _ => ⟨_, rfl⟩

theorem quiet_err (text : String) : Quiet ((treeSession verbosity).err text) :=
  fun _ _ => ⟨_, rfl⟩

theorem quiet_tell (n : Notice) : Quiet ((treeSession verbosity).tell n) := by
  unfold Session.tell
  split
  · exact quiet_err verbosity n.line
  · exact quiet_pure

theorem quiet_tellAll (ns : List Notice) : Quiet ((treeSession verbosity).tellAll ns) := by
  induction ns with
  | nil => exact quiet_pure
  | cons n ns ih => exact (quiet_tell verbosity n).bind ih

theorem quiet_printOutcome (dir : String) (o : Outcome) :
    Quiet (printOutcome (treeSession verbosity) dir o) := by
  unfold printOutcome
  have hout (text : String) := quiet_out verbosity text
  cases o.status with
  | skipped => exact hout _
  | failed reason => exact hout _
  | written bytes =>
    refine (hout _).bind ((hout _).bind ?_)
    intro t
    -- the file is read back, which leaves the tree alone as well
    have hread : Does ((treeSession verbosity).files.readFile (Path.join dir o.path)) t
        (t.contents (Path.join dir o.path)) t := fun printed => ⟨printed, rfl⟩
    apply hread.bind
    cases t.contents (Path.join dir o.path) with
    | ok contents => exact hout _ t
    | error fault => exact hout _ t

theorem quiet_printOutcomes (dir : String) (os : List Outcome) :
    Quiet (printOutcomes (treeSession verbosity) dir os) := by
  induction os with
  | nil => exact quiet_pure
  | cons o os ih => exact (quiet_printOutcome verbosity dir o).bind ih

theorem does_orFail_ok {x : Except Failure α} (h : x = .ok a) (t : FileTree) :
    Does (orFail x : ExceptT Complaint (StateT FileTree (StateM Transcript)) α).run t (.ok a)
      t := by
  rw [h]
  exact fun printed => ⟨printed, rfl⟩

theorem does_orFail_error {x : Except Failure α} {failure : Failure} (h : x = .error failure)
    (t : FileTree) : Does (orFail x : ExceptT Complaint (StateT FileTree (StateM Transcript)) α).run
      t (.error (.failure failure)) t := by
  rw [h]
  exact fun printed => ⟨printed, rfl⟩

/-- What a report comes to. -/
def verdict (report : Report) : Except Complaint Unit :=
  if report.isTotalFailure then .error .nothingGenerated else .ok ()

theorem verdict_eq_ok_iff {report : Report} :
    verdict report = .ok () ↔ ∃ o ∈ report.outcomes, o.status.isWritten = true := by
  rw [← Report.isTotalFailure_eq_false_iff, verdict]
  cases report.isTotalFailure with
  | true => simp
  | false => simp

theorem does_conclude (report : Report) (t : FileTree) :
    Does (conclude (treeSession verbosity) report).run t (verdict report) t := by
  rw [conclude, verdict]
  split
  · exact fun printed => ⟨printed, rfl⟩
  · split
    · exact (quiet_out verbosity _ t).lift
    · exact fun printed => ⟨printed, rfl⟩

end Session

/-! ### Settings -/

theorem does_findConfig (verbosity : Nat) (path : String) (t : FileTree) :
    Does (findConfig (treeSession verbosity) path).run t
      ((t.config path).mapError .failure) t := by
  obtain ⟨found?, hfound⟩ := t.exists_loadIfThere path
  rw [FileTree.config_eq hfound]
  apply (Does.of_yields hfound).lift.bind_ok
  cases found? with
  | some result =>
    cases result with
    | ok c => exact does_orFail_ok rfl t
    | error failure => exact does_orFail_error rfl t
  | none =>
    apply (quiet_tell verbosity _ t).lift.bind_ok
    exact fun printed => ⟨printed, rfl⟩

/-- The configuration in force with the settings that were given laid over it, and its request. -/
def prepare (t : FileTree) (path : String) (a : BackendArgs) :
    Except Failure (Config × Request) := do
  let found ← t.config path
  let c := a.override found
  let r ← c.toRequest
  .ok (c, r)

theorem prepare_eq_ok_iff {path : String} {args : BackendArgs} {c : Config} {r : Request} :
    prepare t path args = .ok (c, r) ↔
      ∃ found, t.config path = .ok found ∧ args.override found = c ∧ c.toRequest = .ok r := by
  simp only [prepare, Json.bind_eq_ok_iff, Except.ok.injEq, Prod.mk.injEq]
  constructor
  · rintro ⟨found, hconfig, r', hr, rfl, rfl⟩
    exact ⟨found, hconfig, rfl, hr⟩
  · rintro ⟨found, hconfig, rfl, hr⟩
    exact ⟨found, hconfig, r, hr, rfl, rfl⟩

theorem prepare_eq_error_iff {path : String} {args : BackendArgs} {failure : Failure} :
    prepare t path args = .error failure ↔ t.config path = .error failure ∨
      ∃ found, t.config path = .ok found ∧ (args.override found).toRequest = .error failure := by
  simp [prepare, bind_eq_error_iff]

/-! ### Ways to go -/

/-- A directory can be made, and something is written when a request is generated into it. -/
def Delivers (t : FileTree) (dir : String) (policy : OverwritePolicy) (r : Request) : Prop :=
  ∃ made report t', Yields (fun _ => files.makeDirectories dir) t (.ok ()) made ∧
    Yields (fun _ => generate (FileTree.provider dir (Prompt.ofPolicy policy)) r.asParams) made
      (.ok report) t' ∧
    ∃ o ∈ report.outcomes, o.status.isWritten = true

/-- The settings come to a valid request, and there is something to show for it in the end unless it
is a dry run. -/
def Succeeds (t : FileTree) (path : String) (a : BackendArgs) : Prop :=
  ∃ c r, prepare t path a = .ok (c, r) ∧ (a.dryRun = true ∨ Delivers t c.outputDir a.policy r)

/-- The ways the command can go, each with its result and the tree that it leaves. -/
inductive Course (t : FileTree) (path : String) (a : BackendArgs) :
    Except Complaint Unit → FileTree → Prop where
  | refused {failure : Failure} (refused : prepare t path a = .error failure) :
      Course t path a (.error (.failure failure)) t
  | rehearsed {c : Config} {r : Request} (prepared : prepare t path a = .ok (c, r))
      (dry : a.dryRun = true) : Course t path a (.ok ()) t
  | homeless {c : Config} {r : Request} {fault : IoFault} {made : FileTree}
      (prepared : prepare t path a = .ok (c, r)) (wet : a.dryRun = false)
      (failed : Yields (fun _ => files.makeDirectories c.outputDir) t (.error fault) made) :
      Course t path a (.error (.failure (.sinkUnavailable c.outputDir fault))) made
  | concluded {c : Config} {r : Request} {made t' : FileTree} {report : Report}
      (prepared : prepare t path a = .ok (c, r)) (wet : a.dryRun = false)
      (created : Yields (fun _ => files.makeDirectories c.outputDir) t (.ok ()) made)
      (generated : Yields (fun _ => generate (FileTree.provider c.outputDir
        (Prompt.ofPolicy a.policy)) r.asParams) made (.ok report) t') :
      Course t path a (verdict report) t'

theorem validate_of_toRequest {c : Config} {r : Request} (h : c.toRequest = .ok r) :
    r.validate = .ok () := by
  cases hname : c.name with
  | none =>
    rw [Config.toRequest, hname] at h
    cases h
  | some name =>
    rw [Config.toRequest, hname] at h
    obtain ⟨_, hv, hr⟩ := Json.bind_eq_ok_iff.1 h
    cases hr
    exact hv

/-- What is asked of a command that is not refused. -/
theorem succeeds_iff {path : String} {args : BackendArgs} {c : Config} {r : Request}
    (h : prepare t path args = .ok (c, r)) :
    Succeeds t path args ↔ args.dryRun = true ∨ Delivers t c.outputDir args.policy r := by
  constructor
  · rintro ⟨c', r', prepared, hdelivers⟩
    rw [h] at prepared
    cases prepared
    exact hdelivers
  · intro hdelivers
    exact ⟨c, r, h, hdelivers⟩

theorem not_delivers {fault : IoFault} {made : FileTree}
    (failed : Yields (fun _ => files.makeDirectories dir) t (.error fault) made)
    (policy : OverwritePolicy) (r : Request) : ¬ Delivers t dir policy r := by
  rintro ⟨made', report, t', created, -⟩
  obtain ⟨hresult, -⟩ := failed.unique created
  cases hresult

/-- A directory is made in one way, and a request generated in one way. -/
theorem delivers_iff {policy : OverwritePolicy} {r : Request} {made : FileTree} {report : Report}
    (created : Yields (fun _ => files.makeDirectories dir) t (.ok ()) made)
    (generated : Yields (fun _ => generate (FileTree.provider dir (Prompt.ofPolicy policy))
      r.asParams) made (.ok report) t') :
    Delivers t dir policy r ↔ ∃ o ∈ report.outcomes, o.status.isWritten = true := by
  constructor
  · rintro ⟨made', report', t'', created', generated', hwritten⟩
    obtain ⟨-, hmade⟩ := created.unique created'
    subst hmade
    obtain ⟨hreport, -⟩ := generated.unique generated'
    cases hreport
    exact hwritten
  · intro hwritten
    exact ⟨made, report, t', created, generated, hwritten⟩

theorem does_dryRun {r : Request} {params : Params} (h : r.Accepted params) (verbosity : Nat)
    (t : FileTree) :
    Does (dryRun (treeSession verbosity) ⟨r, r.assignments⟩).run t (.ok ()) t := by
  have hmemory := Request.generate_memory h
  rw [generate, Job.ofParams_accepted h] at hmemory
  rcases hrun : (Job.run MemoryStore.provider ⟨r, r.assignments⟩).run .empty with
    ⟨attempts, store⟩
  -- in memory nothing is in the way of an artifact
  have hreport : Report.ofAttempts attempts = r.completeReport := by
    have hsame := (run_bind hrun).symm.trans hmemory
    exact Except.ok.inj (congrArg Prod.fst hsame)
  have hverdict : verdict (Report.ofAttempts attempts) = .ok () := by
    rw [hreport]
    rfl
  unfold dryRun
  simp only [hrun]
  apply (quiet_tellAll verbosity _ t).lift.bind_ok
  apply (quiet_out verbosity _ t).lift.bind_ok
  rw [← hverdict]
  exact does_conclude verbosity _ t

/-- Where the directory is made, the run comes to the verdict on the report of a generation. -/
theorem does_realRun {r : Request} (h : r.Accepted r.asParams) (verbosity : Nat)
    (policy : OverwritePolicy) {made : FileTree}
    (created : Yields (fun _ => files.makeDirectories dir) t (.ok ()) made) :
    ∃ report t', Yields (fun _ => generate (FileTree.provider dir (Prompt.ofPolicy policy))
        r.asParams) made (.ok report) t' ∧
      Does (realRun (treeSession verbosity) dir policy ⟨r, r.assignments⟩).run t (verdict report)
        t' := by
  obtain ⟨attempts, t', hrun⟩ := r.yields_run policy dir made
  have hgenerate : Yields (fun _ => generate (FileTree.provider dir (Prompt.ofPolicy policy))
      r.asParams) made (.ok (.ofAttempts attempts)) t' := by
    unfold generate
    rw [Job.ofParams_accepted h]
    exact hrun.bind fun _ _ => rfl
  refine ⟨.ofAttempts attempts, t', hgenerate, ?_⟩
  have hcreate : Does (OutputDirectory.create (treeSession verbosity).files dir policy.confirm) t
      (.ok ⟨dir, policy.confirm⟩) made :=
    (Does.of_yields created).bind fun printed => ⟨printed, rfl⟩
  -- the provider that the command makes is the one for the policy
  have hjob : Does (Job.run (OutputDirectory.provider (treeSession verbosity).files
      ⟨dir, policy.confirm⟩) ⟨r, r.assignments⟩) made attempts t' := Does.of_yields hrun
  unfold realRun
  apply (quiet_out verbosity _ t).lift.bind_ok
  apply hcreate.lift.bind_ok
  apply (does_orFail_ok rfl made).bind_ok
  apply hjob.lift.bind_ok
  apply (quiet_tellAll verbosity _ t').lift.bind_ok
  apply (quiet_out verbosity _ t').lift.bind_ok
  apply (quiet_printOutcomes verbosity dir _ t').lift.bind_ok
  exact does_conclude verbosity _ t'

theorem does_realRun_homeless (job : Job) (verbosity : Nat) (policy : OverwritePolicy)
    {made : FileTree} {fault : IoFault}
    (failed : Yields (fun _ => files.makeDirectories dir) t (.error fault) made) :
    Does (realRun (treeSession verbosity) dir policy job).run t
      (.error (.failure (.sinkUnavailable dir fault))) made := by
  have hcreate : Does (OutputDirectory.create (treeSession verbosity).files dir policy.confirm) t
      (.error (.sinkUnavailable dir fault)) made :=
    (Does.of_yields failed).bind fun printed => ⟨printed, rfl⟩
  unfold realRun
  apply (quiet_out verbosity _ t).lift.bind_ok
  apply hcreate.lift.bind_ok
  exact (does_orFail_error rfl made).bind_error

section Backend

variable {path : String} {args : BackendArgs} {c : Config} {r : Request}

theorem accepted_of_prepare (h : prepare t path args = .ok (c, r)) : r.Accepted r.asParams := by
  obtain ⟨found, -, -, hr⟩ := prepare_eq_ok_iff.1 h
  exact Request.accepted_asParams (validate_of_toRequest hr)

theorem does_runBackend_refused {failure : Failure} (h : prepare t path args = .error failure)
    (verbosity : Nat) : Does (runBackend (treeSession verbosity) path args).run t
      (.error (.failure failure)) t := by
  have hfind := does_findConfig verbosity path t
  rcases prepare_eq_error_iff.1 h with hconfig | ⟨found, hconfig, hr⟩
  · rw [hconfig] at hfind
    exact hfind.bind_error
  · rw [hconfig] at hfind
    apply hfind.bind_ok
    apply (quiet_tell verbosity _ t).lift.bind_ok
    exact (does_orFail_error hr t).bind_error

/-- Up to here nothing has been touched, and the two checks that are left are passed. -/
theorem does_runBackend_prepared (h : prepare t path args = .ok (c, r)) (verbosity : Nat)
    {result : Except Complaint Unit}
    (hrest : Does (if args.dryRun then dryRun (treeSession verbosity) ⟨r, r.assignments⟩
      else realRun (treeSession verbosity) c.outputDir args.policy ⟨r, r.assignments⟩).run t
        result t') : Does (runBackend (treeSession verbosity) path args).run t result t' := by
  have haccepted := accepted_of_prepare h
  obtain ⟨found, hconfig, rfl, hr⟩ := prepare_eq_ok_iff.1 h
  have hparams : r.toParams = .ok r.asParams := by
    rw [Request.toParams, validate_of_toRequest hr]
    rfl
  have hfind := does_findConfig verbosity path t
  rw [hconfig] at hfind
  apply hfind.bind_ok
  apply (quiet_tell verbosity _ t).lift.bind_ok
  apply (does_orFail_ok hr t).bind_ok
  apply (quiet_out verbosity _ t).lift.bind_ok
  apply (quiet_out verbosity _ t).lift.bind_ok
  apply (quiet_out verbosity _ t).lift.bind_ok
  apply (does_orFail_ok hparams t).bind_ok
  apply (does_orFail_ok (Job.ofParams_accepted haccepted) t).bind_ok
  exact hrest

/-- Whatever the tree, the command goes one of its ways. -/
theorem does_runBackend (verbosity : Nat) (path : String) (args : BackendArgs) (t : FileTree) :
    ∃ result t', Does (runBackend (treeSession verbosity) path args).run t result t' ∧
      Course t path args result t' := by
  cases hprepare : prepare t path args with
  | error failure => exact ⟨_, t, does_runBackend_refused hprepare verbosity, .refused hprepare⟩
  | ok prepared =>
    obtain ⟨c, r⟩ := prepared
    have h := accepted_of_prepare hprepare
    cases hdry : args.dryRun with
    | true =>
      refine ⟨_, t, does_runBackend_prepared hprepare verbosity ?_, .rehearsed hprepare hdry⟩
      rw [hdry]
      exact does_dryRun h verbosity t
    | false =>
      obtain ⟨created, made, hmake, -⟩ := t.grows_makeDirectories c.outputDir
      cases created with
      | error fault =>
        refine ⟨_, made, does_runBackend_prepared hprepare verbosity ?_,
          .homeless hprepare hdry hmake⟩
        rw [hdry]
        exact does_realRun_homeless ⟨r, r.assignments⟩ verbosity args.policy hmake
      | ok _ =>
        obtain ⟨report, t', hgenerate, hdoes⟩ := does_realRun h verbosity args.policy hmake
        refine ⟨_, t', does_runBackend_prepared hprepare verbosity ?_,
          .concluded hprepare hdry hmake hgenerate⟩
        rw [hdry]
        exact hdoes

end Backend

namespace Course

variable {path : String} {args : BackendArgs} {result : Except Complaint Unit}

/-- A command that is refused, or that is only to rehearse, touches nothing. -/
theorem unchanged (h : Course t path args result t')
    (hidle : (∃ failure, prepare t path args = .error failure) ∨ args.dryRun = true) : t' = t := by
  have hnot {c : Config} {r : Request} (prepared : prepare t path args = .ok (c, r))
      (wet : args.dryRun = false) : False := by
    rcases hidle with ⟨failure, hrefused⟩ | hdry
    · rw [prepared] at hrefused
      cases hrefused
    · rw [wet] at hdry
      cases hdry
  cases h with
  | refused => rfl
  | rehearsed => rfl
  | homeless prepared wet => exact absurd wet (hnot prepared)
  | concluded prepared wet => exact absurd wet (hnot prepared)

/-- The command ends well on its way if there is something to show for it, and only then. -/
theorem eq_ok_iff (h : Course t path args result t') :
    result = .ok () ↔ Succeeds t path args := by
  cases h with
  | refused refused =>
    have hnot : ¬ Succeeds t path args := by
      rintro ⟨c, r, prepared, -⟩
      rw [refused] at prepared
      cases prepared
    exact iff_of_false (by simp) hnot
  | rehearsed prepared dry => exact iff_of_true rfl ((succeeds_iff prepared).2 (Or.inl dry))
  | @homeless _ r _ _ prepared wet failed =>
    have hnot := not_delivers failed args.policy r
    rw [succeeds_iff prepared, wet]
    simp [hnot]
  | concluded prepared wet created generated =>
    have hdelivers := delivers_iff created generated
    rw [succeeds_iff prepared, wet, hdelivers, verdict_eq_ok_iff]
    simp

end Course

/-! ### Programs -/

theorem Grammar.read_nil {σ : Type} (g : Grammar σ) (s : σ) : g.read s [] = .ok s := by
  unfold Grammar.read
  rfl

/-- An option that leaves the next argument alone. -/
theorem Grammar.read_option {σ : Type} (g : Grammar σ) {s s' : σ} {x : String} {rest : List String}
    (hx : x ≠ "--") (hlooks : looksLikeOption x = true)
    (hoption : g.option s x rest = .ok (s', false)) : g.read s (x :: rest) = g.read s' rest := by
  rw [Grammar.read.eq_def]
  simp only [if_neg hx, if_pos hlooks, hoption]

/-- The command for a backend leaves every tree as it was if the configuration cannot be loaded, if
the request of the merged settings is invalid, or if it is a dry run. Its exit status is zero just
if the configuration is loaded, the request is valid, and it is a dry run or the output directory
can be made and an artifact is reported as written; otherwise it is one. -/
theorem run_backend {args : List String} {path : String} {verbosity : Nat} {a : BackendArgs}
    (hp : parse args = .ok ⟨path, verbosity, .backend a⟩) (t : FileTree) (printed : Transcript) :
    ∃ status t' printed', ((run treeHost args).run t).run printed = ((status, t'), printed') ∧
      ((∃ failure, t.config path = .error failure) ∨
        (∃ found failure, t.config path = .ok found ∧
          (a.override found).toRequest = .error failure) ∨ a.dryRun = true → t' = t) ∧
      (status = 0 ↔ Succeeds t path a) ∧ (status = 1 ↔ ¬ Succeeds t path a) := by
  obtain ⟨result, t', hdoes, hcourse⟩ := does_runBackend verbosity path a t
  -- a complaint is printed, and else nothing comes after the command
  have hrun : Does (run treeHost args) t (match result with | .ok () => 0 | .error _ => 1) t' := by
    unfold run
    rw [hp]
    apply hdoes.bind
    cases result with
    | ok _ => exact fun printed => ⟨printed, rfl⟩
    | error complaint =>
      exact (quiet_err verbosity complaint.text t').bind fun printed => ⟨printed, rfl⟩
  obtain ⟨printed', hrun⟩ := hrun printed
  refine ⟨_, t', printed', hrun, ?_, ?_⟩
  · rintro (⟨failure, hconfig⟩ | ⟨found, failure, hconfig, hr⟩ | hdry)
    · exact hcourse.unchanged (Or.inl ⟨failure, prepare_eq_error_iff.2 (Or.inl hconfig)⟩)
    · have hrefused := prepare_eq_error_iff.2 (Or.inr ⟨found, hconfig, hr⟩)
      exact hcourse.unchanged (Or.inl ⟨failure, hrefused⟩)
    · exact hcourse.unchanged (Or.inr hdry)
  · rw [← hcourse.eq_ok_iff]
    cases result with
    | ok _ => simp
    | error complaint => simp

/-- A dry run without a configuration in an empty tree. -/
theorem run_backend_dry :
    let args := ["backend", "-na", "--node=B", "--dry-run"]
    let a : BackendArgs := ⟨some "a", none, none, ["B"], false, false, true⟩
    let t : FileTree := ⟨[], []⟩
    parse args = .ok ⟨defaultConfigPath, 0, .backend a⟩ ∧ Succeeds t defaultConfigPath a ∧
      ∃ printed', ((run treeHost args).run t).run .empty = ((0, t), printed') := by
  intro args a t
  have hp : parse args = .ok ⟨defaultConfigPath, 0, .backend a⟩ := by
    have hhead : rootGrammar.readHead .none args = .ok (.none, "backend", args.tail) := by
      unfold Grammar.readHead
      rfl
    have hoptions : backendGrammar.read ⟨.none, noBackendArgs⟩ args.tail = .ok ⟨.none, a⟩ :=
      calc backendGrammar.read ⟨.none, noBackendArgs⟩ args.tail
        _ = backendGrammar.read ⟨.none, { a with nodes := [], dryRun := false }⟩
            ["--node=B", "--dry-run"] := backendGrammar.read_option (by decide) rfl rfl
        _ = backendGrammar.read ⟨.none, { a with dryRun := false }⟩ ["--dry-run"] :=
          backendGrammar.read_option (by decide) rfl rfl
        _ = backendGrammar.read ⟨.none, a⟩ [] := backendGrammar.read_option (by decide) rfl rfl
        _ = .ok ⟨.none, a⟩ := backendGrammar.read_nil _
    have hcommand : readCommand "backend" args.tail = .ok (.none, .backend a) := by
      rw [readCommand, if_pos rfl, hoptions]
      rfl
    rw [parse, hhead]
    change (readCommand "backend" args.tail >>= _) = _
    rw [hcommand]
    rfl
  have hsought : FileTree.Sought ⟨true, false⟩ defaultConfigPath [] :=
    ⟨by decide, by decide, by decide, by simp⟩
  have hconfig : t.config defaultConfigPath = .ok .standard :=
    FileTree.config_absent (by decide) (.free hsought rfl)
  have hrequest : (⟨some "a", false, none, some ["B"], "hpp", "cpp"⟩ : Config).toRequest =
      .ok ⟨"a", false, ["B"], "hpp", "cpp"⟩ := rfl
  have hoverride : a.override .standard = ⟨some "a", false, none, some ["B"], "hpp", "cpp"⟩ := rfl
  have hprepare : prepare t defaultConfigPath a =
      .ok (a.override .standard, ⟨"a", false, ["B"], "hpp", "cpp"⟩) := by
    rw [hoverride]
    exact prepare_eq_ok_iff.2 ⟨_, hconfig, hoverride, hrequest⟩
  have hsucceeds : Succeeds t defaultConfigPath a := ⟨_, _, hprepare, Or.inl rfl⟩
  obtain ⟨status, t', printed', hrun, hsame, hzero, -⟩ := run_backend hp t .empty
  rw [hsame (Or.inr (Or.inr rfl)), hzero.2 hsucceeds] at hrun
  exact ⟨hp, hsucceeds, printed', hrun⟩

end Cli

end Scaffold
