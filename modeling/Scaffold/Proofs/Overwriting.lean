import Mathlib.Data.List.Forall2
import Scaffold.Proofs.Directories
import Scaffold.Proofs.Requests

/-!
Nothing is overwritten unless the prompt agrees.

A run makes its directory and generates a backend into it. Whatever the tree, the prompt is asked
at most once for each artifact, about an entry that is there, and only a file that it gives up can
change. This holds of each run in a row of any length.
-/
namespace Scaffold

variable {σ : Type} {t t' : FileTree} {full : String}

open FileTree (files asking Within Extends)

/-- A question to a prompt, with the tree it is asked about and the answer. -/
structure Question where
  path : String
  tree : FileTree
  answer : Except Failure Bool

namespace Prompt

def ofPolicy (policy : OverwritePolicy) : Prompt σ := fun path _ => policy.confirm path

/-- The prompt with a log of its questions, the last one at the end. -/
def logged (ask : Prompt σ) : Prompt (σ × List Question) := fun path t (s, log) =>
  match (ask path t).run s with
  | (answer, s') => (answer, (s', log ++ [⟨path, t, answer⟩]))

theorem run_logged {ask : Prompt σ} {path : String} {answer : Except Failure Bool} {s s' : σ}
    (h : (ask path t).run s = (answer, s')) (log : List Question) :
    (ask.logged path t).run (s, log) = (answer, (s', log ++ [⟨path, t, answer⟩])) := by
  change (match (ask path t).run s with
    | (answer, s') => (answer, (s', log ++ [Question.mk path t answer]))) = _
  rw [h]

end Prompt

namespace Question

def Answered (ask : Prompt σ) (q : Question) : Prop := ∃ s, ((ask q.path q.tree).run s).1 = q.answer

/-- The file at a location is given up to be replaced. -/
def GivesUp (q : Question) (location : Location) : Prop :=
  q.answer = .ok true ∧ ∃ bytes, q.tree.status q.path = .ok (location, .file bytes)

end Question

/-! ### Opening -/

/-- Something, if only a link, is at a path. -/
def FileTree.Present (t : FileTree) (path : String) : Prop :=
  ∃ location e, t.resolve ⟨false, false⟩ path (steps path) = .ok (.taken location e)

/-- What may come of making a new file. -/
inductive Creates (t : FileTree) (full : String) : Except IoFault FileHandle → FileTree → Prop where
  | refused {fault : IoFault} (other : fault ≠ .alreadyExists) : Creates t full (.error fault) t
  | present (present : t.Present full) : Creates t full (.error .alreadyExists) t
  | made {location : Location} (free : t.entry? location = none) :
      Creates t full (.ok (.file location 0)) (t.put location (.file .empty))

/-- What may come of emptying a file. -/
inductive Empties (t : FileTree) (full : String) : Except IoFault FileHandle → FileTree → Prop where
  | refused (fault : IoFault) : Empties t full (.error fault) t
  | device : Empties t full (.ok .fullDevice) t
  | made {location : Location} (free : t.entry? location = none) :
      Empties t full (.ok (.file location 0)) (t.put location (.file .empty))
  | emptied {location : Location} {bytes : ByteArray}
      (found : t.status full = .ok (location, .file bytes))
      (stored : t.entry? location = some (.file bytes)) :
      Empties t full (.ok (.file location 0)) (t.put location (.file .empty))

/-- What may come of asking for a sink, with the question that is put, if any. -/
inductive Grants (t : FileTree) (full : String) :
    Option Question → Opening (FileSink FileHandle) → FileTree → Prop where
  | unasked {file : Except IoFault FileHandle} {t' : FileTree} (creates : Creates t full file t')
      (other : file ≠ .error .alreadyExists) :
      Grants t full none (OutputDirectory.opening full file) t'
  | declined (present : t.Present full) : Grants t full (some ⟨full, t, .ok false⟩) .declined t
  | failed (present : t.Present full) (failure : Failure) :
      Grants t full (some ⟨full, t, .error failure⟩) (.failed failure) t
  | agreed (present : t.Present full) {file : Except IoFault FileHandle} {t' : FileTree}
      (empties : Empties t full file t') :
      Grants t full (some ⟨full, t, .ok true⟩) (OutputDirectory.opening full file) t'

namespace FileTree

theorem creates_createNew (t : FileTree) (full : String) :
    Creates t full (t.createNew full).1 (t.createNew full).2 := by
  have hne : t.target false full ≠ .error .alreadyExists := t.resolve_ne_alreadyExists full
  rw [createNew]
  cases hr : t.target false full with
  | error fault =>
    rw [hr] at hne
    exact .refused fun h => hne (congrArg Except.error h)
  | ok landing =>
    obtain ⟨hcheck, hfollows⟩ := resolve_eq_ok_iff_follows.1 hr
    cases landing with
    | taken location e =>
      exact .present ⟨location, e, resolve_eq_ok_iff_follows.2 ⟨hcheck, hfollows.of_makesFile⟩⟩
    | free location => exact .made hfollows.entry?_free

theorem empties_createEmpty (t : FileTree) (full : String) :
    Empties t full (t.createEmpty full).1 (t.createEmpty full).2 := by
  rw [createEmpty]
  cases hr : t.target true full with
  | error fault => exact .refused fault
  | ok landing =>
    obtain ⟨hcheck, hfollows⟩ := resolve_eq_ok_iff_follows.1 hr
    cases landing with
    | free location => exact .made hfollows.entry?_free
    | taken location e =>
      have hstored := hfollows.entry?_taken
      cases e with
      | directory => exact .refused .isDirectory
      | link target => exact .refused .tooManyLinks
      | fullDevice => exact .device
      | file bytes =>
        have hfound : t.status full = .ok (location, .file bytes) := by
          rw [status, resolve_eq_ok_iff_follows.2 ⟨hcheck, hfollows.of_makesFile⟩]
          rfl
        exact .emptied hfound (hstored.resolve_left (by simp))

theorem run_openSink_unasked {dir name : String} {file : Except IoFault FileHandle}
    (hc : t.createNew (Path.join dir name) = (file, t')) (hne : file ≠ .error .alreadyExists)
    (ask : Prompt σ) (s : σ) : (((provider dir ask).openSink name).run t).run s =
      ((OutputDirectory.opening (Path.join dir name) file, t'), s) := by
  have hrun : ((files.createNew (Path.join dir name)).run t).run s = ((file, t'), s) :=
    congrArg (·, s) hc
  cases file with
  | ok handle => exact run_run_bind hrun
  | error fault =>
    cases fault with
    | alreadyExists => exact absurd rfl hne
    | _ => exact run_run_bind hrun

/-- What is done once a question has been answered. -/
def consented (full : String) (σ : Type) :
    Except Failure Bool → StateT FileTree (StateM σ) (Opening (FileSink FileHandle))
  | .error failure => pure (.failed failure)
  | .ok false => pure .declined
  | .ok true => do
    let file ← files.createEmpty full
    pure (OutputDirectory.opening full file)

theorem yields_consented {file : Except IoFault FileHandle}
    (h : t.createEmpty full = (file, t')) :
    Yields (fun σ => consented full σ (.ok true)) t (OutputDirectory.opening full file) t' := by
  have hrun : Yields (fun _ => files.createEmpty full) t file t' := fun _ s => congrArg (·, s) h
  exact hrun.bind fun _ _ => rfl

theorem grants_consented (present : t.Present full) (consent : Except Failure Bool) :
    ∃ answer t', Yields (fun σ => consented full σ consent) t answer t' ∧
      Grants t full (some ⟨full, t, consent⟩) answer t' := by
  cases consent with
  | error failure => exact ⟨_, t, fun _ _ => rfl, .failed present failure⟩
  | ok agreed =>
    cases agreed with
    | false => exact ⟨_, t, fun _ _ => rfl, .declined present⟩
    | true =>
      have hempties := t.empties_createEmpty full
      rcases he : t.createEmpty full with ⟨file, t'⟩
      rw [he] at hempties
      exact ⟨_, t', yields_consented he, .agreed present hempties⟩

theorem run_openSink_asked {dir name : String} {consent : Except Failure Bool}
    {answer : Opening (FileSink FileHandle)} {ask : Prompt σ} {s s' : σ}
    (hc : t.createNew (Path.join dir name) = (.error .alreadyExists, t))
    (ha : (ask (Path.join dir name) t).run s = (consent, s'))
    (hy : Yields (fun σ => consented (Path.join dir name) σ consent) t answer t') :
    (((provider dir ask).openSink name).run t).run s = ((answer, t'), s') := by
  have hrun : ((files.createNew (Path.join dir name)).run t).run s =
      ((.error .alreadyExists, t), s) := congrArg (·, s) hc
  have hask : ((asking ask (Path.join dir name)).run t).run s = ((consent, t), s') := run_bind ha
  -- all that is left to do depends on the answer alone
  refine (run_run_bind hrun).trans ((run_run_bind hask).trans (Eq.trans ?_ (hy σ s')))
  rcases consent with failure | (_ | _)
  all_goals rfl

/-- A sink is asked for in the same way whether or not the questions are logged. -/
theorem grants_openSink (dir name : String) (ask : Prompt σ) (t : FileTree) (s : σ) :
    ∃ q? answer t' s', (((provider dir ask).openSink name).run t).run s = ((answer, t'), s') ∧
      (∀ log, (((provider dir ask.logged).openSink name).run t).run (s, log) =
        ((answer, t'), (s', log ++ q?.toList))) ∧
      Grants t (Path.join dir name) q? answer t' ∧ ∀ q ∈ q?, q.Answered ask := by
  have hcreates := t.creates_createNew (Path.join dir name)
  rcases hc : t.createNew (Path.join dir name) with ⟨file, t₁⟩
  rw [hc] at hcreates
  by_cases hexists : file = .error .alreadyExists
  · -- something is there, so the prompt is asked
    subst hexists
    obtain ⟨rfl, hpresent⟩ : t = t₁ ∧ t.Present (Path.join dir name) := by
      cases hcreates with
      | refused other => exact absurd rfl other
      | present present => exact ⟨rfl, present⟩
    rcases ha : (ask (Path.join dir name) t).run s with ⟨consent, s₁⟩
    obtain ⟨answer, t', hy, hgrants⟩ := grants_consented hpresent consent
    refine ⟨_, answer, t', s₁, run_openSink_asked hc ha hy, fun log => ?_, hgrants, ?_⟩
    · exact run_openSink_asked hc (Prompt.run_logged ha log) hy
    · rintro _ ⟨⟩
      exact ⟨s, congrArg Prod.fst ha⟩
  · refine ⟨none, _, t₁, s, run_openSink_unasked hc hexists ask s, fun log => ?_,
      .unasked hcreates hexists, fun q hq => by cases hq⟩
    rw [Option.toList_none, List.append_nil]
    exact run_openSink_unasked hc hexists ask.logged (s, log)

/-- How an attempt ends whose sink is opened depends on the handle alone. -/
theorem exists_attempt_opened {a : Assignment} {fs : List String}
    (hf : a.body.fragments a.params = .ok fs) (dir path : String) (handle : FileHandle)
    (t₁ : FileTree) : ∃ attempt t', Within handle.place t₁ t' ∧
      ∀ (σ : Type) (ask : Prompt σ) (t : FileTree) (s s' : σ),
        (((provider dir ask).openSink a.path).run t).run s =
          ((.opened (.create path handle), t₁), s') →
        ((a.attempt (provider dir ask)).run t).run s = ((attempt, t'), s') := by
  obtain ⟨result, w, t₂, hw, hin₂, hplace⟩ := FileSink.stays_write fs path ⟨handle, ""⟩ t₁
  obtain ⟨released, t', hr, hin'⟩ := FileSink.stays_release path w t₂
  rw [hplace] at hin'
  exact ⟨_, t', hin₂.trans hin', fun σ ask t s s' ho => run_attempt_opened hf dir hw hr ho⟩

/-- An attempt whose sink is opened at an empty file puts its text there, and nothing changes
elsewhere. -/
theorem run_attempt_placed {a : Assignment} {fs : List String}
    (hf : a.body.fragments a.params = .ok fs) {dir path : String} {location : Location}
    (hl : location ≠ []) {ask : Prompt σ} {s s' : σ}
    (ho : (((provider dir ask).openSink a.path).run t).run s =
      ((.opened (.create path (.file location 0)), t.put location (.file .empty)), s')) :
    ∃ t', ((a.attempt (provider dir ask)).run t).run s =
        ((.written (String.join fs).utf8ByteSize, t'), s') ∧
      t'.entry? location = some (.file (String.join fs).toUTF8) ∧
      Within (some location) t t' := by
  have hlast : location.getLast? = some (location.getLast hl) := List.getLast?_eq_some_getLast hl
  have hs : entry? (t.put location (.file .empty)) location = some (.file .empty) := by
    rw [entry?_put t hl, if_pos rfl]
  obtain ⟨t', hrun, hstored, -⟩ := run_attempt_made dir ask hf hlast hs ho
  -- the attempt stays at the place of its handle besides, since there is only one way it goes
  obtain ⟨attempt, t'', hin, hopened⟩ := exists_attempt_opened hf dir path (.file location 0)
    (t.put location (.file .empty))
  have hsame := (hopened σ ask t s s' ho).symm.trans hrun
  cases hsame
  exact ⟨_, hrun, hstored, (Within.put hl _).trans hin⟩

end FileTree

/-! ### One artifact -/

/-- A run that is asked for: its directory, its prompt and its parameters. -/
structure Commission (σ : Type) where
  dir : String
  ask : Prompt σ
  params : Params

/-- Every file that is there stays as it is, or some answer gave it up. -/
def Spares (t : FileTree) (qs : List Question) (t' : FileTree) : Prop :=
  ∀ location bytes, t.entry? location = some (.file bytes) →
    t'.entry? location = some (.file bytes) ∨ ∃ q ∈ qs, q.GivesUp location

theorem FileTree.Extends.spares (h : Extends t t') (qs : List Question) : Spares t qs t' :=
  fun location _ he => Or.inl (h.entries location _ he)

theorem Creates.spares {handle : FileHandle} {t₁ : FileTree}
    (h : Creates t full (.ok handle) t₁) (hin : Within handle.place t₁ t') (qs : List Question) :
    Spares t qs t' := by
  cases h with
  | @made location free =>
    have hdir : t.entry? location ≠ some .directory := by simp [free]
    have hall := (Within.put (FileTree.ne_nil_of_not_directory hdir) (.file .empty)).trans hin
    exact (hall.extends_of_free free).spares qs

theorem Empties.spares {handle : FileHandle} {t₁ : FileTree}
    (h : Empties t full (.ok handle) t₁) (hin : Within handle.place t₁ t') :
    Spares t [⟨full, t, .ok true⟩] t' := by
  cases h with
  | device =>
    intro location bytes he
    have hother : some location ≠ FileHandle.fullDevice.place := by simp [FileHandle.place]
    exact Or.inl ((hin.elsewhere location hother).trans he)
  | @made location free =>
    have hcreates : Creates t full (.ok (.file location 0)) (t.put location (.file .empty)) :=
      .made free
    exact hcreates.spares hin _
  | @emptied location bytes found stored =>
    have hdir : t.entry? location ≠ some .directory := by simp [stored]
    have hall := (Within.put (FileTree.ne_nil_of_not_directory hdir) (.file .empty)).trans hin
    intro l old he
    by_cases hl : l = location
    · subst hl
      exact Or.inr ⟨_, List.mem_singleton_self _, rfl, bytes, found⟩
    · have hother : some l ≠ some location := fun h => hl (Option.some.inj h)
      exact Or.inl ((hall.elsewhere l hother).trans he)

namespace Commission

/-- A question of a run about an artifact: its path is that of the artifact and something is there,
and the answer is the prompt's. -/
structure Asks (c : Commission σ) (t : FileTree) (o : Outcome) (q : Question) : Prop where
  path : q.path = Path.join c.dir o.path
  tree : q.tree = t
  present : t.Present q.path
  answered : q.Answered c.ask

/-- What becomes of one artifact and of the tree, with the question that is asked, if any. -/
inductive Consults (c : Commission σ) (t : FileTree) (o : Outcome) :
    Option Question → FileTree → Prop where
  | unasked {t' : FileTree} (spares : Spares t [] t') : Consults c t o none t'
  | declined {q : Question} (asks : c.Asks t o q) (answer : q.answer = .ok false)
      (status : o.status = .skipped) : Consults c t o (some q) t
  | failed {q : Question} {failure : Failure} (asks : c.Asks t o q)
      (answer : q.answer = .error failure) (status : o.status = .failed failure.chain) :
      Consults c t o (some q) t
  | agreed {q : Question} {t' : FileTree} (asks : c.Asks t o q) (answer : q.answer = .ok true)
      (spares : Spares t [q] t') : Consults c t o (some q) t'

/-- The same run with a log of its questions. -/
def logged (c : Commission σ) : Commission (σ × List Question) := ⟨c.dir, c.ask.logged, c.params⟩

abbrev provider (c : Commission σ) :
    Provider (StateT FileTree (StateM σ)) (FileSink FileHandle) := FileTree.provider c.dir c.ask

theorem consults_attempt {a : Assignment} {fs : List String}
    (hf : a.body.fragments a.params = .ok fs) (c : Commission σ) (t : FileTree) (s : σ) :
    ∃ q? attempt t' s', ((a.attempt c.provider).run t).run s = ((attempt, t'), s') ∧
      (∀ log, ((a.attempt c.logged.provider).run t).run (s, log) =
        ((attempt, t'), (s', log ++ q?.toList))) ∧
      c.Consults t (a.outcome attempt) q? t' := by
  obtain ⟨q?, answer, t₁, s', ho, hl, hgrants, hanswered⟩ :=
    FileTree.grants_openSink c.dir a.path c.ask t s
  cases hgrants with
  | @unasked file _ creates other =>
    cases file with
    | error fault =>
      have hsame : t₁ = t := by
        cases creates with
        | refused => rfl
        | present => exact absurd rfl other
      subst hsame
      exact ⟨none, _, t₁, s', run_run_bind ho, fun log => run_run_bind (hl log),
        .unasked ((Extends.refl t₁).spares _)⟩
    | ok handle =>
      obtain ⟨attempt, t', hin, hrun⟩ := FileTree.exists_attempt_opened hf c.dir _ handle t₁
      exact ⟨none, attempt, t', s', hrun _ _ _ _ _ ho, fun log => hrun _ _ _ _ _ (hl log),
        .unasked (creates.spares hin _)⟩
  | declined present =>
    exact ⟨some _, _, t, s', run_run_bind ho, fun log => run_run_bind (hl log),
      .declined ⟨rfl, rfl, present, hanswered _ rfl⟩ rfl rfl⟩
  | failed present failure =>
    exact ⟨some _, _, t, s', run_run_bind ho, fun log => run_run_bind (hl log),
      .failed ⟨rfl, rfl, present, hanswered _ rfl⟩ rfl rfl⟩
  | @agreed present file _ empties =>
    cases file with
    | error fault =>
      have hsame : t₁ = t := by
        cases empties
        rfl
      subst hsame
      exact ⟨some _, _, t₁, s', run_run_bind ho, fun log => run_run_bind (hl log),
        .agreed ⟨rfl, rfl, present, hanswered _ rfl⟩ rfl ((Extends.refl t₁).spares _)⟩
    | ok handle =>
      obtain ⟨attempt, t', hin, hrun⟩ := FileTree.exists_attempt_opened hf c.dir _ handle t₁
      exact ⟨some _, attempt, t', s', hrun _ _ _ _ _ ho, fun log => hrun _ _ _ _ _ (hl log),
        .agreed ⟨rfl, rfl, present, hanswered _ rfl⟩ rfl (empties.spares hin)⟩

/-! ### Runs -/

/-- Artifacts attempted one after the other, with all questions in order. -/
inductive Visits (c : Commission σ) :
    FileTree → List Outcome → List Question → FileTree → Prop where
  | nil (t : FileTree) : Visits c t [] [] t
  | cons {t t' t'' : FileTree} {o : Outcome} {os : List Outcome} {q? : Option Question}
      {qs : List Question} (first : c.Consults t o q? t') (rest : Visits c t' os qs t'') :
      Visits c t (o :: os) (q?.toList ++ qs) t''

/-- Uses the directory, which is made if it is missing, and generates into it. -/
def run (c : Commission σ) : StateT FileTree (StateM σ) (Except Failure Report) := do
  match ← OutputDirectory.create files c.dir (asking c.ask) with
  | .error failure => pure (.error failure)
  | .ok dir => generate (OutputDirectory.provider files dir) c.params

def questions (c : Commission σ) (t : FileTree) (s : σ) : List Question :=
  ((c.logged.run.run t).run (s, [])).2.2

/-- What is reported of the artifacts; nothing if there is no report. -/
def outcomes : Except Failure Report → List Outcome
  | .ok report => report.outcomes
  | .error _ => []

theorem visits_generate (c : Commission σ) (t : FileTree) (s : σ) :
    ∃ result qs t' s', ((generate c.provider c.params).run t).run s = ((result, t'), s') ∧
      (∀ log, ((generate c.logged.provider c.params).run t).run (s, log) =
        ((result, t'), (s', log ++ qs))) ∧
      c.Visits t (outcomes result) qs t' := by
  rcases Job.accepted_or_rejected c.params with ⟨r, h⟩ | ⟨failure, h⟩
  · obtain ⟨q₁, a₁, t₁, s₁, hrun₁, hlog₁, hc₁⟩ :=
      consults_attempt (a := r.assignment .declaration) (r.fragments_derived .declaration) c t s
    -- the definition is attempted in whatever tree the declaration has left
    obtain ⟨q₂, a₂, t₂, s₂, hrun₂, hlog₂, hc₂⟩ :=
      consults_attempt (a := r.assignment .definition) (r.fragments_derived .definition) c t₁ s₁
    refine ⟨.ok (r.report a₁ a₂), q₁.toList ++ (q₂.toList ++ []), t₂, s₂,
      generate_run_run h hrun₁ hrun₂, fun log => ?_, .cons hc₁ (.cons hc₂ (.nil t₂))⟩
    rw [List.append_nil, ← List.append_assoc]
    exact generate_run_run h (hlog₁ log) (hlog₂ _)
  · refine ⟨.error failure, [], t, s, ?_, fun log => ?_, .nil t⟩
    · rw [generate_rejected _ h]
      rfl
    · rw [generate_rejected _ h, List.append_nil]
      rfl

theorem run_of_created {c : Commission σ} {made : FileTree} {s s' : σ}
    {result : Except Failure Report}
    (hy : Yields (fun _ => files.makeDirectories c.dir) t (.ok ()) made)
    (hrun : ((generate c.provider c.params).run made).run s = ((result, t'), s')) :
    (c.run.run t).run s = ((result, t'), s') := by
  have hcreate : ((OutputDirectory.create files c.dir (asking c.ask)).run t).run s =
      ((.ok ⟨c.dir, asking c.ask⟩, made), s) := run_run_bind (hy σ s)
  exact (run_run_bind hcreate).trans hrun

theorem run_of_not_created {c : Commission σ} {made : FileTree} {fault : IoFault}
    (hy : Yields (fun _ => files.makeDirectories c.dir) t (.error fault) made) (s : σ) :
    (c.run.run t).run s = ((.error (.sinkUnavailable c.dir fault), made), s) := by
  have hcreate : ((OutputDirectory.create files c.dir (asking c.ask)).run t).run s =
      ((.error (.sinkUnavailable c.dir fault), made), s) := run_run_bind (hy σ s)
  exact run_run_bind hcreate

theorem visits_run (c : Commission σ) (t : FileTree) (s : σ) :
    ∃ result qs made t' s', (c.run.run t).run s = ((result, t'), s') ∧
      (∀ log, (c.logged.run.run t).run (s, log) = ((result, t'), (s', log ++ qs))) ∧
      Extends t made ∧ c.Visits made (outcomes result) qs t' := by
  obtain ⟨created, made, hy, hx⟩ := t.grows_makeDirectories c.dir
  cases created with
  | error fault =>
    refine ⟨_, [], made, made, s, run_of_not_created hy s, fun log => ?_, hx, .nil made⟩
    rw [List.append_nil]
    exact run_of_not_created (c := c.logged) hy (s, log)
  | ok _ =>
    obtain ⟨result, qs, t', s', hrun, hlog, hvisits⟩ := visits_generate c made s
    exact ⟨result, qs, made, t', s', run_of_created hy hrun,
      fun log => run_of_created hy (hlog log), hx, hvisits⟩

/-- The log changes nothing: the logged run is the run itself, together with its questions. -/
theorem run_logged (c : Commission σ) (t : FileTree) (s : σ) :
    (c.logged.run.run t).run (s, []) =
      (((c.run.run t).run s).1, (((c.run.run t).run s).2, c.questions t s)) := by
  obtain ⟨result, qs, made, t', s', hrun, hlog, -, -⟩ := visits_run c t s
  rw [questions, hrun, hlog]

end Commission

/-! ### Files that stay -/

theorem Spares.trans {t'' : FileTree} {qs qs' : List Question} (h : Spares t qs t')
    (h' : Spares t' qs' t'') : Spares t (qs ++ qs') t'' := by
  intro location bytes he
  rcases h location bytes he with hkept | ⟨q, hq, hgives⟩
  · rcases h' location bytes hkept with hkept | ⟨q, hq, hgives⟩
    · exact Or.inl hkept
    · exact Or.inr ⟨q, List.mem_append_right _ hq, hgives⟩
  · exact Or.inr ⟨q, List.mem_append_left _ hq, hgives⟩

theorem Spares.of_declined {qs : List Question} (h : Spares t qs t')
    (hq : ∀ q ∈ qs, q.answer = .ok false) : Spares t [] t' := by
  intro location bytes he
  rcases h location bytes he with hkept | ⟨q, hmem, hyes, -⟩
  · exact Or.inl hkept
  · rw [hq q hmem] at hyes
    cases hyes

namespace Commission

variable {c : Commission σ}

theorem Consults.spares {o : Outcome} {q? : Option Question} (h : c.Consults t o q? t') :
    Spares t q?.toList t' := by
  cases h with
  | unasked spares => exact spares
  | declined => exact (Extends.refl t).spares _
  | failed => exact (Extends.refl t).spares _
  | agreed _ _ spares => exact spares

theorem Consults.answered {o : Outcome} {q? : Option Question} (h : c.Consults t o q? t') :
    ∀ q ∈ q?.toList, q.Answered c.ask := by
  cases h with
  | unasked => exact List.forall_mem_nil _
  | declined asks => exact List.forall_mem_singleton.2 asks.answered
  | failed asks => exact List.forall_mem_singleton.2 asks.answered
  | agreed asks => exact List.forall_mem_singleton.2 asks.answered

theorem Visits.spares {os : List Outcome} {qs : List Question} (h : c.Visits t os qs t') :
    Spares t qs t' := by
  induction h with
  | nil t => exact (Extends.refl t).spares _
  | cons first _ ih => exact first.spares.trans ih

theorem Visits.answered {os : List Outcome} {qs : List Question} (h : c.Visits t os qs t') :
    ∀ q ∈ qs, q.Answered c.ask := by
  induction h with
  | nil t => exact List.forall_mem_nil _
  | cons first _ ih => exact List.forall_mem_append.2 ⟨first.answered, ih⟩

end Commission

/-- A run as it was: the tree before it, what it gave, its questions and the tree after it. -/
structure Record where
  before : FileTree
  result : Except Failure Report
  questions : List Question
  after : FileTree

/-- Runs one after the other, each in the tree and the state that the one before has left. -/
def history : List (Commission σ) → FileTree → σ → List Record
  | [], _, _ => []
  | c :: cs, t, s =>
    let ((result, t'), s') := (c.run.run t).run s
    ⟨t, result, c.questions t s, t'⟩ :: history cs t' s'

/-- What is guaranteed of a run. Its directory is made, which adds to the tree, and then each of its
artifacts is attempted with one question at most. A file that is there before the run stays as it
is unless an answer gave it up; if the policy is never to overwrite, it stays in any case. -/
structure Commission.Guards (c : Commission σ) (record : Record) : Prop where
  visits : ∃ made, Extends record.before made ∧
    c.Visits made (Commission.outcomes record.result) record.questions record.after
  spares : Spares record.before record.questions record.after
  never : c.ask = Prompt.ofPolicy .never → Spares record.before [] record.after

theorem Commission.guards_run (c : Commission σ) (t : FileTree) (s : σ) :
    c.Guards ⟨t, ((c.run.run t).run s).1.1, c.questions t s, ((c.run.run t).run s).1.2⟩ := by
  obtain ⟨result, qs, made, t', s', hrun, hlog, hx, hvisits⟩ := visits_run c t s
  have hqs : c.questions t s = qs := by rw [questions, hlog, List.nil_append]
  rw [hrun, hqs]
  have hspares : Spares t qs t' := (hx.spares []).trans hvisits.spares
  refine ⟨⟨made, hx, hvisits⟩, hspares, fun hnever => hspares.of_declined fun q hq => ?_⟩
  obtain ⟨s, hanswer⟩ := hvisits.answered q hq
  rw [hnever] at hanswer
  exact hanswer.symm

/-- Nothing is overwritten in silence: whatever the tree, each of a row of runs keeps its
guarantees, and a row of runs that are never to overwrite leaves all files as they were. -/
theorem history_guarded (cs : List (Commission σ)) (t : FileTree) (s : σ) :
    List.Forall₂ Commission.Guards cs (history cs t s) ∧
      ((∀ c ∈ cs, c.ask = Prompt.ofPolicy .never) →
        ∀ record ∈ history cs t s, Spares t [] record.after) := by
  induction cs generalizing t s with
  | nil => exact ⟨.nil, fun _ => List.forall_mem_nil _⟩
  | cons c cs ih =>
    -- the tree that a run leaves is the one that the next run finds
    have hguards := c.guards_run t s
    rcases hrun : (c.run.run t).run s with ⟨⟨result, t'⟩, s'⟩
    rw [hrun] at hguards
    obtain ⟨hrest, hkept⟩ := ih t' s'
    have hhistory : history (c :: cs) t s =
        ⟨t, result, c.questions t s, t'⟩ :: history cs t' s' := by rw [history, hrun]
    rw [hhistory]
    refine ⟨.cons hguards hrest, fun hnever => ?_⟩
    obtain ⟨hfirst, hothers⟩ := List.forall_mem_cons.1 hnever
    have hspares : Spares t [] t' := hguards.never hfirst
    refine List.forall_mem_cons.2 ⟨hspares, fun record hrecord => ?_⟩
    exact hspares.trans (hkept hothers record hrecord)

/-- Two runs through a link that leads to a directory with an artifact in it. -/
theorem history_guarded_never :
    let params := Request.asParams ⟨"a", false, [], "h", "c"⟩
    let c : Commission Unit := ⟨"out", Prompt.ofPolicy .never, params⟩
    let old : Entry := .file "old".toUTF8
    let t : FileTree := ⟨[(["a_backend.h"], old), (["out"], .link ".")], []⟩
    (∀ c' ∈ [c, c], c'.ask = Prompt.ofPolicy .never) ∧
      List.Forall₂ Commission.Guards [c, c] (history [c, c] t ()) ∧
      ∀ record ∈ history [c, c] t (), record.after.entry? ["a_backend.h"] = some old := by
  intro params c old t
  have hask : ∀ c' ∈ [c, c], c'.ask = Prompt.ofPolicy .never := by simp [c]
  obtain ⟨hguards, hnever⟩ := history_guarded [c, c] t ()
  refine ⟨hask, hguards, fun record hrecord => ?_⟩
  have hstored : t.entry? ["a_backend.h"] = some old := rfl
  rcases hnever hask record hrecord _ _ hstored with hkept | ⟨q, hq, -⟩
  · exact hkept
  · cases hq

end Scaffold
