import Scaffold.Proofs.Buffering

/-!
Sinks for several files, with steps in any order.

Each sink is at a stage that depends on its own steps alone: it takes text as long as it has only
been appended to, and from the first other step on all of that text is in its file. A step with one
sink leaves the stages of the others as they are, since no two of them write to the same file.
-/
namespace Scaffold

variable {σ : Type} {t t' : FileTree} {steps : List SinkStep}

open FileTree (files Within)

/-! ### Steps of one sink -/

namespace SinkStep

/-- Whether a sink has been closed, given back or dropped. -/
def ended (steps : List SinkStep) : Bool := steps.any fun step => !step.isAppend

/-- Whether a sink has been given back or dropped. -/
def gone (steps : List SinkStep) : Bool := steps.any letsGo

/-- What is appended to a sink before the first step of another kind. -/
def appended : List SinkStep → String
  | append text :: steps => text ++ appended steps
  | _ => ""

theorem appended_append (steps more : List SinkStep) :
    appended (steps ++ more) = appended steps ++ if ended steps then "" else appended more := by
  induction steps with
  | nil => exact (String.empty_append).symm
  | cons step steps ih =>
    cases step with
    | append text =>
      have hended : ended (append text :: steps) = ended steps := rfl
      rw [List.cons_append, appended, ih, appended, hended, String.append_assoc]
    | close => rfl
    | release => rfl
    | drop => rfl

/-- From the first step on that is not an append, no more text counts. -/
theorem appended_concat {step : SinkStep} (h : ended steps = true ∨ step.isAppend = false) :
    appended (steps ++ [step]) = appended steps := by
  rw [appended_append]
  rcases h with hended | hstep
  · rw [if_pos hended, String.append_empty]
  · have hnone : appended [step] = "" := by cases step <;> first | rfl | cases hstep
    rw [hnone, ite_self, String.append_empty]

theorem ended_concat (steps : List SinkStep) (step : SinkStep) :
    ended (steps ++ [step]) = (ended steps || !step.isAppend) := by
  rw [ended, List.any_append, ← ended, List.any_cons, List.any_nil, Bool.or_false]

theorem gone_concat (steps : List SinkStep) (step : SinkStep) :
    gone (steps ++ [step]) = (gone steps || step.letsGo) := by
  rw [gone, List.any_append, ← gone, List.any_cons, List.any_nil, Bool.or_false]

theorem gone_of_not_ended (h : ended steps = false) : gone steps = false := by
  rw [gone, List.any_eq_false]
  intro step hmem
  have hstep := List.any_eq_false.1 h step hmem
  cases step with
  | append text => exact Bool.false_ne_true
  | close => exact Bool.false_ne_true
  | release => exact absurd rfl hstep
  | drop => exact absurd rfl hstep

/-- How a sink that has had steps answers the next one, as long as it is there. -/
def answer (path : String) (steps : List SinkStep) (step : SinkStep) :
    Option (Except Failure Unit) :=
  if ended steps then
    if gone steps then none else some (step.answerClosed path)
  else some (.ok ())

/-- Does a step with a sink if it is there. -/
def performIf (step : SinkStep) : Option (FileSink FileHandle) →
    TreeAction (Option (Except Failure Unit) × Option (FileSink FileHandle))
  | none, _ => pure (none, none)
  | some k, σ => do
    let (answer, k?) ← step.perform k σ
    pure (some answer, k?)

theorem yields_performIf {step : SinkStep} {k : FileSink FileHandle} {answer : Except Failure Unit}
    {k? : Option (FileSink FileHandle)} (h : Yields (step.perform k) t (answer, k?) t') :
    Yields (step.performIf (some k)) t (some answer, k?) t' := h.bind fun _ _ => rfl

end SinkStep

/-! ### Stages -/

/-- A file that a sink is opened for, and the path that its failures name. -/
structure Outlet where
  path : String
  location : Location

/-- The sink as it is opened. -/
def Outlet.sink (o : Outlet) : FileSink FileHandle := .create o.path (.file o.location 0)

open SinkStep (ended gone appended)

/-- What has become of the sink of an outlet, if there is one, after steps with it. -/
inductive Stage (t : FileTree) :
    Option Outlet → List SinkStep → Option (FileSink FileHandle) → Prop where
  | absent (steps : List SinkStep) : Stage t none steps none
  | filling {o : Outlet} {steps : List SinkStep} {w : FileWriter FileHandle}
      (going : ended steps = false) (below : o.location ≠ [])
      (carries : Carries t o.location w (appended steps)) :
      Stage t (some o) steps (some ⟨o.path, some w⟩)
  | closed {o : Outlet} {steps : List SinkStep} (finished : ended steps = true)
      (kept : gone steps = false)
      (stored : t.entry? o.location = some (.file (appended steps).toUTF8)) :
      Stage t (some o) steps (some ⟨o.path, none⟩)
  | away {o : Outlet} {steps : List SinkStep} (finished : ended steps = true)
      (left : gone steps = true)
      (stored : t.entry? o.location = some (.file (appended steps).toUTF8)) :
      Stage t (some o) steps none

namespace Stage

variable {o? : Option Outlet} {k? : Option (FileSink FileHandle)}

/-- A stage is a matter of the one file. -/
theorem of_same (h : Stage t o? steps k?)
    (hsame : ∀ o, o? = some o → t'.entry? o.location = t.entry? o.location) :
    Stage t' o? steps k? := by
  cases h with
  | absent steps => exact .absent steps
  | filling going below carries =>
    refine .filling going below ?_
    generalize appended steps = text at carries
    obtain ⟨stored⟩ := carries
    exact .intro ((hsame _ rfl).trans stored)
  | closed finished kept stored => exact .closed finished kept ((hsame _ rfl).trans stored)
  | away finished left stored => exact .away finished left ((hsame _ rfl).trans stored)

/-- A file holds a beginning of what is appended, and in the end all of it. -/
theorem holds {o : Outlet} (h : Stage t (some o) steps k?) :
    ∃ written pending, t.entry? o.location = some (.file written.toUTF8) ∧
      written ++ pending = appended steps ∧ (ended steps = true → pending = "") := by
  cases h with
  | filling going below carries =>
    generalize appended steps = text at carries
    obtain @⟨written, pending, stored⟩ := carries
    refine ⟨written, pending, stored, rfl, fun finished => ?_⟩
    rw [going] at finished
    cases finished
  | closed finished kept stored => exact ⟨_, "", stored, String.append_empty, fun _ => rfl⟩
  | away finished left stored => exact ⟨_, "", stored, String.append_empty, fun _ => rfl⟩

/-- The stage of a sink that has taken one more text. -/
theorem append {o : Outlet} {w : FileWriter FileHandle} {text : String}
    (going : ended steps = false) (below : o.location ≠ [])
    (carries : Carries t o.location w (appended steps ++ text)) :
    Stage t (some o) (steps ++ [.append text]) (some ⟨o.path, some w⟩) := by
  have happended : appended (steps ++ [.append text]) = appended steps ++ text := by
    rw [SinkStep.appended_append, going]
    exact congrArg (appended steps ++ ·) String.append_empty
  have hgoing : ended (steps ++ [.append text]) = false := by
    rw [SinkStep.ended_concat, going]
    rfl
  rw [← happended] at carries
  exact .filling hgoing below carries

/-- The stage of a sink that takes no more text after a step. -/
theorem stop {o : Outlet} {step : SinkStep} (hfinished : ended steps = true ∨ step.isAppend = false)
    (hkept : gone steps = false)
    (stored : t.entry? o.location = some (.file (appended steps).toUTF8)) :
    Stage t (some o) (steps ++ [step]) (if step.letsGo then none else some ⟨o.path, none⟩) := by
  have hended : ended (steps ++ [step]) = true := by simpa [SinkStep.ended_concat] using hfinished
  have hgone : gone (steps ++ [step]) = step.letsGo := by
    rw [SinkStep.gone_concat, hkept, Bool.false_or]
  rw [← SinkStep.appended_concat hfinished] at stored
  cases hlets : step.letsGo with
  | true => exact .away hended (hgone.trans hlets) stored
  | false => exact .closed hended (hgone.trans hlets) stored

/-- What a step does with a sink that is at some stage. -/
theorem exists_step (h : Stage t o? steps k?) (step : SinkStep) : ∃ answer? k?' t',
    Yields (step.performIf k?) t (answer?, k?') t' ∧ Stage t' o? (steps ++ [step]) k?' ∧
      Within (o?.map Outlet.location) t t' ∧
      answer? = o?.bind (fun o => step.answer o.path steps) ∧
      (ended steps = true → t' = t) := by
  cases h with
  | absent steps => exact ⟨none, none, t, fun _ _ => rfl, .absent _, .refl _ t, rfl, fun _ => rfl⟩
  | @filling o _ w going below carries =>
    have hanswer : step.answer o.path steps = some (.ok ()) := by simp [SinkStep.answer, going]
    have hidle (t' : FileTree) : ended steps = true → t' = t := by simp [going]
    cases hstep : step.isAppend with
    | true =>
      obtain ⟨text, rfl⟩ : ∃ text, step = .append text := by
        cases step <;> first | exact ⟨_, rfl⟩ | cases hstep
      obtain ⟨w', t', hy, carries', hin⟩ :=
        SinkStep.yields_append_file o.path carries below text
      exact ⟨_, _, t', SinkStep.yields_performIf hy, append going below carries', hin,
        hanswer.symm, hidle t'⟩
    | false =>
      obtain ⟨t', hy, stored, hin⟩ := SinkStep.yields_end_file o.path carries below hstep
      have hstage := stop (Or.inr hstep) (SinkStep.gone_of_not_ended going) stored
      exact ⟨_, _, t', SinkStep.yields_performIf hy, hstage, hin, hanswer.symm, hidle t'⟩
  | @closed o _ finished kept stored =>
    have hanswer : step.answer o.path steps = some (step.answerClosed o.path) := by
      simp [SinkStep.answer, finished, kept]
    have hy := SinkStep.yields_performIf (SinkStep.yields_perform_closed o.path step t)
    exact ⟨_, _, t, hy, stop (Or.inl finished) kept stored, .refl _ t, hanswer.symm, fun _ => rfl⟩
  | @away o _ finished left stored =>
    have hanswer : step.answer o.path steps = none := by simp [SinkStep.answer, finished, left]
    have hended : ended (steps ++ [step]) = true := by rw [SinkStep.ended_concat, finished]; rfl
    have hgone : gone (steps ++ [step]) = true := by rw [SinkStep.gone_concat, left]; rfl
    have happended : appended (steps ++ [step]) = appended steps :=
      SinkStep.appended_concat (Or.inl finished)
    rw [← happended] at stored
    exact ⟨none, none, t, fun _ _ => rfl, .away hended hgone stored, .refl _ t, hanswer.symm,
      fun _ => rfl⟩

end Stage

/-! ### Turns -/

/-- Steps with the sinks of several outlets, in any order. -/
abbrev Turns := List (Nat × SinkStep)

/-- The sinks that are still there. -/
abbrev Held := Nat → Option (FileSink FileHandle)

/-- Does a step with one of the sinks, if it is still there. -/
def takeTurn (i : Nat) (step : SinkStep) (held : Held) :
    TreeAction (Option (Except Failure Unit) × Held) := fun σ => do
  let (answer?, k?) ← step.performIf (held i) σ
  pure (answer?, Function.update held i k?)

def takeTurns (held : Held) : Turns → TreeAction (List (Option (Except Failure Unit)) × Held)
  | [], _ => pure ([], held)
  | (i, step) :: turns, σ => do
    let (answer?, held) ← takeTurn i step held σ
    let (answers, held) ← takeTurns held turns σ
    pure (answer? :: answers, held)

/-- The steps with one sink. -/
def Turns.own (turns : Turns) (i : Nat) : List SinkStep :=
  (turns.filter fun turn => turn.1 = i).map (·.2)

theorem Turns.own_concat (turns : Turns) (i : Nat) (step : SinkStep) :
    Turns.own (turns ++ [(i, step)]) i = turns.own i ++ [step] := by
  simp [own, List.filter_append]

theorem Turns.own_concat_of_ne (turns : Turns) {i j : Nat} (h : j ≠ i) (step : SinkStep) :
    Turns.own (turns ++ [(i, step)]) j = turns.own j := by
  simp [own, List.filter_append, h.symm]

variable {outlets : List Outlet} {turns : Turns} {held : Held}

/-- All sinks are at the stages that their own steps have brought them to. -/
def Staged (outlets : List Outlet) (turns : Turns) (held : Held) (t : FileTree) : Prop :=
  ∀ i, Stage t outlets[i]? (turns.own i) (held i)

/-- What is guaranteed of one more step. -/
structure TurnKeeps (outlets : List Outlet) (turns : Turns) (i : Nat) (step : SinkStep)
    (held : Held) (t : FileTree) (answer? : Option (Except Failure Unit)) (held' : Held)
    (t' : FileTree) : Prop where
  yields : Yields (takeTurn i step held) t (answer?, held') t'
  /-- No other sink changes, nor the text in its buffer, nor its file. -/
  others : ∀ j ≠ i, held' j = held j ∧
    ∀ o, outlets[j]? = some o → t'.entry? o.location = t.entry? o.location
  within : Within (outlets[i]?.map Outlet.location) t t'
  answers : answer? = outlets[i]?.bind fun o => step.answer o.path (turns.own i)
  /-- Once the sink has been closed, no file changes. -/
  idle : SinkStep.ended (turns.own i) = true → t' = t

theorem location_ne_of_ne (hd : (outlets.map Outlet.location).Nodup) {i j : Nat} (h : j ≠ i)
    {o : Outlet} (ho : outlets[j]? = some o) :
    some o.location ≠ outlets[i]?.map Outlet.location := by
  intro hsame
  rw [← List.getElem?_map] at hsame
  have hj : (outlets.map Outlet.location)[j]? = some o.location := by
    rw [List.getElem?_map, ho]
    rfl
  have hlt : j < (outlets.map Outlet.location).length := (List.getElem?_eq_some_iff.1 hj).1
  exact h ((List.getElem?_inj hlt hd).1 (hj.trans hsame))

theorem Staged.exists_turn (h : Staged outlets turns held t)
    (hd : (outlets.map Outlet.location).Nodup) (i : Nat) (step : SinkStep) :
    ∃ answer? held' t', TurnKeeps outlets turns i step held t answer? held' t' ∧
      Staged outlets (turns ++ [(i, step)]) held' t' := by
  obtain ⟨answer?, k?, t', hy, hstage, hin, hanswer, hidle⟩ := (h i).exists_step step
  have hothers : ∀ j ≠ i, ∀ o, outlets[j]? = some o →
      t'.entry? o.location = t.entry? o.location :=
    fun j hj o ho => hin.elsewhere _ (location_ne_of_ne hd hj ho)
  refine ⟨answer?, Function.update held i k?, t', ?_, fun j => ?_⟩
  · exact {
      yields := hy.bind fun _ _ => rfl
      others := fun j hj => ⟨Function.update_of_ne hj _ _, hothers j hj⟩
      within := hin
      answers := hanswer
      idle := hidle }
  · by_cases hj : j = i
    · subst hj
      rw [Turns.own_concat, Function.update_self]
      exact hstage
    · rw [Turns.own_concat_of_ne _ hj, Function.update_of_ne hj]
      exact (h j).of_same (hothers j hj)

theorem Staged.exists_turns (h : Staged outlets turns held t)
    (hd : (outlets.map Outlet.location).Nodup) (more : Turns) :
    ∃ answers held' t', Yields (takeTurns held more) t (answers, held') t' ∧
      Staged outlets (turns ++ more) held' t' := by
  -- the turns that have been taken grow by one each time
  induction more generalizing turns held t with
  | nil => exact ⟨[], held, t, fun _ _ => rfl, by rwa [List.append_nil]⟩
  | cons next more ih =>
    obtain ⟨i, step⟩ := next
    obtain ⟨answer?, held₁, t₁, hkeeps, hstaged⟩ := h.exists_turn hd i step
    obtain ⟨answers, held', t', hy, hstaged'⟩ := ih hstaged
    refine ⟨answer? :: answers, held', t', hkeeps.yields.bind (hy.bind fun _ _ => rfl), ?_⟩
    rwa [List.append_assoc] at hstaged'

/-! ### Openings in a row -/

/-- What is asked of a provider. -/
structure SinkRequest (σ : Type) where
  dir : String
  ask : Prompt σ
  name : String

def openSinks : List (SinkRequest σ) →
    StateT FileTree (StateM σ) (List (Opening (FileSink FileHandle)))
  | [] => pure []
  | request :: requests => do
    let opening ← (FileTree.provider request.dir request.ask).openSink request.name
    let openings ← openSinks requests
    pure (opening :: openings)

/-- The files of the sinks that have been opened are empty, and so are those that have been so
before. -/
theorem empty_of_openSinks {requests : List (SinkRequest σ)} {s s' : σ}
    (ho : ((openSinks requests).run t).run s =
      ((outlets.map fun o => .opened o.sink, t'), s')) :
    (∀ o ∈ outlets, o.location ≠ [] ∧ t'.entry? o.location = some (.file .empty)) ∧
      ∀ location, t.entry? location = some (.file .empty) →
        t'.entry? location = some (.file .empty) := by
  induction requests generalizing outlets t s with
  | nil =>
    have hrun : (([], t), s) = ((outlets.map fun o => Opening.opened o.sink, t'), s') := ho
    simp only [Prod.mk.injEq] at hrun
    obtain ⟨⟨hnil, rfl⟩, -⟩ := hrun
    rw [List.map_eq_nil_iff.1 hnil.symm]
    exact ⟨List.forall_mem_nil _, fun _ stored => stored⟩
  | cons request requests ih =>
    let first := (FileTree.provider request.dir request.ask).openSink request.name
    rcases hfirst : (first.run t).run s with ⟨⟨opening, t₁⟩, s₁⟩
    rcases hrest : ((openSinks requests).run t₁).run s₁ with ⟨⟨openings, t₂⟩, s₂⟩
    have hrun : ((openSinks (request :: requests)).run t).run s =
        ((opening :: openings, t₂), s₂) := (run_run_bind hfirst).trans (run_run_bind hrest)
    have hsame : ((opening :: openings, t₂), s₂) =
        ((outlets.map fun o => Opening.opened o.sink, t'), s') := hrun.symm.trans ho
    simp only [Prod.mk.injEq] at hsame
    obtain ⟨⟨hcons, rfl⟩, rfl⟩ := hsame
    obtain ⟨o, outlets, rfl, rfl, rfl⟩ := List.map_eq_cons_iff.1 hcons.symm
    obtain ⟨hempty, hkept⟩ := ih hrest
    obtain ⟨handle, hsink, hfresh, hin⟩ := FileTree.fresh_of_opened hfirst
    have hhandle : .file o.location 0 = handle :=
      congrArg FileWriter.handle (Option.some.inj (congrArg FileSink.writer hsink))
    subst hhandle
    obtain ⟨⟩ | ⟨below, stored⟩ := hfresh
    refine ⟨List.forall_mem_cons.2 ⟨⟨below, hkept _ stored⟩, hempty⟩, fun location hold => ?_⟩
    apply hkept
    by_cases hl : location = o.location
    · rwa [hl]
    · rw [hin.elsewhere location (by simpa [FileHandle.place] using hl)]
      exact hold

/-- Sinks for different files are appended to as if each were alone and not buffered. In whatever
order the steps come, a file holds a beginning of the text that has been appended to its sink, and
all of it once the sink has been closed, given back or dropped; and one more step with a sink leaves
the other sinks and their files as they are, and all files if the sink has been closed. -/
theorem sinks_append_apart {requests : List (SinkRequest σ)} {s s' : σ}
    (ho : ((openSinks requests).run t).run s =
      ((outlets.map fun o => .opened o.sink, t'), s'))
    (hd : (outlets.map Outlet.location).Nodup) (turns : Turns) :
    ∃ answers held t₁,
      Yields (takeTurns (fun i => outlets[i]?.map Outlet.sink) turns) t' (answers, held) t₁ ∧
      (∀ i o, outlets[i]? = some o → ∃ written pending,
        t₁.entry? o.location = some (.file written.toUTF8) ∧
        written ++ pending = appended (turns.own i) ∧
        (ended (turns.own i) = true → pending = "")) ∧
      ∀ i step, ∃ answer? held' t₂, TurnKeeps outlets turns i step held t₁ answer? held' t₂ := by
  obtain ⟨hempty, -⟩ := empty_of_openSinks ho
  have hstart : Staged outlets [] (fun i => outlets[i]?.map Outlet.sink) t' := by
    intro i
    change Stage t' outlets[i]? [] (outlets[i]?.map Outlet.sink)
    cases hi : outlets[i]? with
    | none => exact .absent _
    | some o =>
      obtain ⟨below, stored⟩ := hempty o (List.mem_of_getElem? hi)
      have carries : Carries t' o.location ⟨.file o.location "".utf8ByteSize, ""⟩ "" :=
        .of_stored stored
      exact .filling rfl below carries
  obtain ⟨answers, held, t₁, hy, hstaged⟩ := hstart.exists_turns hd turns
  rw [List.nil_append] at hstaged
  refine ⟨answers, held, t₁, hy, fun i o ho => ?_, fun i step => ?_⟩
  · have hstage := hstaged i
    rw [ho] at hstage
    exact hstage.holds
  · obtain ⟨answer?, held', t₂, hkeeps, -⟩ := hstaged.exists_turn hd i step
    exact ⟨answer?, held', t₂, hkeeps⟩

/-- One sink for a file that was there and one for a new file. Text that comes after the sink has
been closed is lost. -/
theorem sinks_append_apart_two :
    let t : FileTree := ⟨[(["a"], .file "old".toUTF8)], []⟩
    let t' : FileTree := ⟨[(["a"], .file .empty), (["b"], .file .empty)], []⟩
    let requests : List (SinkRequest Unit) :=
      [⟨"", Prompt.ofPolicy .always, "a"⟩, ⟨"", Prompt.ofPolicy .never, "b"⟩]
    let outlets : List Outlet := [⟨"a", ["a"]⟩, ⟨"b", ["b"]⟩]
    let turns : Turns :=
      [(0, .append "x"), (1, .append "y"), (0, .close), (0, .append "z"), (1, .drop)]
    ((openSinks requests).run t).run () = ((outlets.map fun o => .opened o.sink, t'), ()) ∧
      (outlets.map Outlet.location).Nodup ∧
      ∃ answers held t₁,
        Yields (takeTurns (fun i => outlets[i]?.map Outlet.sink) turns) t' (answers, held) t₁ ∧
        t₁.entry? ["a"] = some (.file "x".toUTF8) ∧ t₁.entry? ["b"] = some (.file "y".toUTF8) := by
  intro t t' requests outlets turns
  let t₀ : FileTree := ⟨[(["a"], .file .empty)], []⟩
  have hsought (follow : Bool) {name : String} (h : name = "a" ∨ name = "b") :
      FileTree.Sought ⟨follow, true⟩ name [] := by
    rcases h with rfl | rfl
    · exact ⟨by decide, by decide, by decide, by simp⟩
    · exact ⟨by decide, by decide, by decide, by simp⟩
  have htaken (follow : Bool) : t.target follow "a" = .ok (.taken ["a"] (.file "old".toUTF8)) :=
    FileTree.resolve_eq_ok_iff_follows.2
      ⟨by decide, .last (hsought follow (Or.inl rfl)) rfl (by simp) (by simp)⟩
  have hfree : t₀.target false "b" = .ok (.free ["b"]) :=
    FileTree.resolve_eq_ok_iff_follows.2 ⟨by decide, .free (hsought false (Or.inr rfl)) rfl⟩
  have hexists : t.createNew "a" = (.error .alreadyExists, t) := by
    rw [FileTree.createNew, htaken]
  have hempty : t.createEmpty "a" = (.ok (.file ["a"] 0), t₀) := by
    rw [FileTree.createEmpty, htaken]
    rfl
  have hjoin : Path.join "" "b" = "b" := rfl
  have hnew : t₀.createNew (Path.join "" "b") = (.ok (.file ["b"] 0), t') := by
    rw [hjoin, FileTree.createNew, hfree]
    rfl
  have hfirst : (((FileTree.provider "" (Prompt.ofPolicy .always)).openSink "a").run t).run () =
      ((.opened (.create "a" (.file ["a"] 0)), t₀), ()) :=
    FileTree.run_openSink_asked hexists rfl (FileTree.yields_consented hempty)
  have hsecond := FileTree.run_openSink_unasked hnew (by simp) (Prompt.ofPolicy .never) ()
  rw [hjoin] at hsecond
  have ho : ((openSinks requests).run t).run () =
      ((outlets.map fun o => .opened o.sink, t'), ()) :=
    (run_run_bind hfirst).trans (run_run_bind (run_run_bind hsecond))
  have hd : (outlets.map Outlet.location).Nodup := by decide
  obtain ⟨answers, held, t₁, hy, hholds, -⟩ := sinks_append_apart ho hd turns
  refine ⟨ho, hd, answers, held, t₁, hy, ?_, ?_⟩
  · obtain ⟨written, pending, stored, htext, hall⟩ := hholds 0 ⟨"a", ["a"]⟩ rfl
    rw [hall rfl, String.append_empty] at htext
    rw [stored, htext]
    rfl
  · obtain ⟨written, pending, stored, htext, hall⟩ := hholds 1 ⟨"b", ["b"]⟩ rfl
    rw [hall rfl, String.append_empty] at htext
    rw [stored, htext]
    rfl

end Scaffold
