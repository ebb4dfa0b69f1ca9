import Scaffold.Proofs.Overwriting

/-!
Buffered sinks for files, one step after the other.

A sink is opened for an empty file or for a full device. What it takes for a file reaches the file
when the sink is closed at the latest; what it takes for a full device stays in its buffer, and
closing fails unless that is empty. Once closed, a sink takes no more text and may be closed again.
-/
namespace Scaffold

variable {σ : Type} {t t' : FileTree} {location : Location} {path text : String}

open FileTree (files Within)

/-! ### Openings -/

theorem OutputDirectory.opening_eq_opened_iff {file : Except IoFault FileHandle}
    {k : FileSink FileHandle} :
    opening path file = .opened k ↔ ∃ handle, file = .ok handle ∧ k = .create path handle := by
  cases file with
  | error fault => simp [opening]
  | ok handle => simp [opening, eq_comm]

/-- What a handle is just after its file has been made or emptied. -/
inductive FileHandle.Fresh (t : FileTree) : FileHandle → Prop where
  | device : Fresh t .fullDevice
  | file {location : Location} (below : location ≠ [])
      (stored : t.entry? location = some (.file .empty)) : Fresh t (.file location 0)

theorem FileHandle.fresh_put {e : Option Entry} (h : t.entry? location = e)
    (hne : e ≠ some .directory) :
    FileHandle.Fresh (t.put location (.file .empty)) (.file location 0) ∧
      Within (some location) t (t.put location (.file .empty)) := by
  have hdir : t.entry? location ≠ some .directory := by rwa [h]
  have hl : location ≠ [] := FileTree.ne_nil_of_not_directory hdir
  refine ⟨.file hl ?_, .put hl _⟩
  rw [FileTree.entry?_put t hl, if_pos rfl]

/-- A sink that is opened has an empty buffer and a fresh handle, and opening it has changed nothing
but the file of that handle. -/
theorem FileTree.fresh_of_opened {dir name : String} {ask : Prompt σ} {s s' : σ}
    {k : FileSink FileHandle}
    (ho : (((FileTree.provider dir ask).openSink name).run t).run s = ((.opened k, t'), s')) :
    ∃ handle, k = .create (Path.join dir name) handle ∧ handle.Fresh t' ∧
      Within handle.place t t' := by
  obtain ⟨q?, answer, t₁, s₁, hrun, -, hgrants, -⟩ := FileTree.grants_openSink dir name ask t s
  have hsame := hrun.symm.trans ho
  cases hsame
  generalize hanswer : Opening.opened k = answer at hgrants
  cases hgrants with
  | declined => cases hanswer
  | failed => cases hanswer
  | unasked creates =>
    obtain ⟨handle, rfl, rfl⟩ := OutputDirectory.opening_eq_opened_iff.1 hanswer.symm
    cases creates with
    | made free => exact ⟨_, rfl, FileHandle.fresh_put free (by simp)⟩
  | agreed _ empties =>
    obtain ⟨handle, rfl, rfl⟩ := OutputDirectory.opening_eq_opened_iff.1 hanswer.symm
    cases empties with
    | device => exact ⟨_, rfl, .device, .refl _ t⟩
    | made free => exact ⟨_, rfl, FileHandle.fresh_put free (by simp)⟩
    | emptied _ stored => exact ⟨_, rfl, FileHandle.fresh_put stored (by simp)⟩

/-! ### Steps -/

/-- What can be done with a sink. -/
inductive SinkStep where
  | append (text : String)
  | close
  | release
  | drop

namespace SinkStep

def isAppend : SinkStep → Bool
  | append _ => true
  | _ => false

/-- Whether the sink is gone after the step. -/
def letsGo : SinkStep → Bool
  | release => true
  | drop => true
  | _ => false

/-- Does a step with a sink, and gives the sink back unless it is gone. -/
def perform (k : FileSink FileHandle) :
    SinkStep → TreeAction (Except Failure Unit × Option (FileSink FileHandle))
  | append text, _ => do
    let (answer, k) ← k.append files text
    pure (answer, some k)
  | close, _ => do
    let (answer, k) ← k.close files
    pure (answer, some k)
  | release, σ => do
    let answer ← k.release σ
    pure (answer, none)
  | drop, _ => do
    k.drop files
    pure (.ok (), none)

/-- Does steps with a sink as long as it is there. -/
def performAll (k : FileSink FileHandle) :
    List SinkStep → TreeAction (List (Except Failure Unit) × Option (FileSink FileHandle))
  | [], _ => pure ([], some k)
  | step :: steps, σ => do
    match ← step.perform k σ with
    | (answer, none) => pure ([answer], none)
    | (answer, some k) =>
      let (answers, k?) ← performAll k steps σ
      pure (answer :: answers, k?)

/-- What is known of a result: when a sink is dropped, no failure is. -/
def reported (result : Except Failure Unit) : SinkStep → Except Failure Unit
  | drop => .ok ()
  | _ => result

/-- How a closed sink answers. -/
def answerClosed (path : String) : SinkStep → Except Failure Unit
  | append _ => .error (.writeFailed path .closed)
  | _ => .ok ()

theorem yields_performAll_cons {k k' : FileSink FileHandle} {step : SinkStep}
    {steps : List SinkStep} {t'' : FileTree} {answer : Except Failure Unit}
    {answers : List (Except Failure Unit)} {k? : Option (FileSink FileHandle)}
    (h : Yields (step.perform k) t (answer, some k') t')
    (hs : Yields (performAll k' steps) t' (answers, k?) t'') :
    Yields (performAll k (step :: steps)) t (answer :: answers, k?) t'' :=
  h.bind (hs.bind fun _ _ => rfl)

/-! ### Closed sinks -/

/-- A step with a closed sink changes no file. -/
theorem yields_perform_closed (path : String) (step : SinkStep) (t : FileTree) :
    Yields (step.perform ⟨path, none⟩) t
      (step.answerClosed path, if step.letsGo then none else some ⟨path, none⟩) t := by
  cases step <;> exact fun _ _ => rfl

theorem yields_performAll_closed (path : String) {steps : List SinkStep}
    (h : ∀ step ∈ steps, step.letsGo = false) (t : FileTree) :
    Yields (performAll ⟨path, none⟩ steps) t
      (steps.map (answerClosed path), some ⟨path, none⟩) t := by
  induction steps with
  | nil => exact fun _ _ => rfl
  | cons step steps ih =>
    obtain ⟨hstep, hsteps⟩ := List.forall_mem_cons.1 h
    have hfirst := yields_perform_closed path step t
    rw [hstep] at hfirst
    exact yields_performAll_cons hfirst (ih hsteps)

end SinkStep

/-! ### Open sinks -/

namespace FileWriter

variable {w : FileWriter FileHandle}

/-- What is pending reaches the file. -/
theorem yields_flush_file (h : Carries t location w text) (hl : location ≠ []) :
    ∃ t', Yields (fun _ => w.flush files) t
        (.ok (), ⟨.file location text.utf8ByteSize, ""⟩) t' ∧
      t'.entry? location = some (.file text.toUTF8) ∧ Within (some location) t t' := by
  have hlast : location.getLast? = some (location.getLast hl) := List.getLast?_eq_some_getLast hl
  obtain ⟨t', hrun, hstored, -⟩ := run_flush h hlast ()
  -- there is only one way to go, and it stays at the place of the handle
  obtain ⟨result, w', t₁, hy, hin, -⟩ := stays_flush w t
  obtain ⟨heq, rfl⟩ := hy.eq_of_run hrun
  rw [heq] at hy
  rw [h.place] at hin
  exact ⟨t₁, hy, hstored, hin⟩

/-- Every text is taken, whether or not it is written at once. -/
theorem yields_append_file (h : Carries t location w text) (hl : location ≠ []) (x : String) :
    ∃ w' t', Yields (fun _ => w.append files x) t (.ok (), w') t' ∧
      Carries t' location w' (text ++ x) ∧ Within (some location) t t' := by
  have hlast : location.getLast? = some (location.getLast hl) := List.getLast?_eq_some_getLast hl
  obtain ⟨w', t', hrun, hcarries, -⟩ := run_append h hlast x ()
  obtain ⟨result, w₁, t₁, hy, hin, -⟩ := stays_append w t x
  obtain ⟨heq, rfl⟩ := hy.eq_of_run hrun
  rw [heq] at hy
  rw [h.place] at hin
  exact ⟨w', t₁, hy, hcarries, hin⟩

end FileWriter

namespace SinkStep

variable {w : FileWriter FileHandle}

/-- An append goes to the writer of the sink. -/
theorem yields_append {result : Except IoFault Unit} {w' : FileWriter FileHandle}
    (h : Yields (fun _ => w.append files text) t (result, w') t') :
    Yields ((append text).perform ⟨path, some w⟩) t
      (result.mapError (.writeFailed path), some ⟨path, some w'⟩) t' := by
  have hk : Yields (fun _ => (FileSink.mk path (some w)).append files text) t
      (result.mapError (.writeFailed path), ⟨path, some w'⟩) t' := h.bind fun _ _ => rfl
  exact hk.bind fun _ _ => rfl

/-- Every other step writes out what is pending. -/
theorem yields_end {step : SinkStep} (hstep : step.isAppend = false)
    {result : Except IoFault Unit} {w' : FileWriter FileHandle}
    (h : Yields (fun _ => w.flush files) t (result, w') t') :
    Yields (step.perform ⟨path, some w⟩) t
      (step.reported (result.mapError (.writeFailed path)),
        if step.letsGo then none else some ⟨path, none⟩) t' := by
  have hclose : Yields (fun _ => (FileSink.mk path (some w)).close files) t
      (result.mapError (.writeFailed path), ⟨path, none⟩) t' := h.bind fun _ _ => rfl
  cases step with
  | append text => cases hstep
  | close => exact hclose.bind fun _ _ => rfl
  | release =>
    have hrelease : Yields (fun σ => (FileSink.mk path (some w)).release σ) t
        (result.mapError (.writeFailed path)) t' := hclose.bind fun _ _ => rfl
    exact hrelease.bind fun _ _ => rfl
  | drop =>
    have hdrop : Yields (fun _ => (FileSink.mk path (some w)).drop files) t () t' :=
      hclose.bind fun _ _ => rfl
    exact hdrop.bind fun _ _ => rfl

/-! ### Sinks for files -/

/-- A sink for a file takes every text. -/
theorem yields_append_file (path : String) (h : Carries t location w text) (hl : location ≠ [])
    (x : String) : ∃ w' t', Yields ((append x).perform ⟨path, some w⟩) t
        (.ok (), some ⟨path, some w'⟩) t' ∧
      Carries t' location w' (text ++ x) ∧ Within (some location) t t' := by
  obtain ⟨w', t', hy, hcarries, hin⟩ := FileWriter.yields_append_file h hl x
  exact ⟨w', t', yields_append hy, hcarries, hin⟩

/-- All of the text is in the file when a sink has been closed, given back or dropped. -/
theorem yields_end_file (path : String) (h : Carries t location w text) (hl : location ≠ [])
    {step : SinkStep} (hstep : step.isAppend = false) : ∃ t', Yields (step.perform ⟨path, some w⟩) t
        (.ok (), if step.letsGo then none else some ⟨path, none⟩) t' ∧
      t'.entry? location = some (.file text.toUTF8) ∧ Within (some location) t t' := by
  obtain ⟨t', hy, hstored, hin⟩ := FileWriter.yields_flush_file h hl
  have hok : step.reported (.ok ()) = .ok () := by cases step <;> rfl
  have hend : Yields (step.perform ⟨path, some w⟩) t
      (step.reported (.ok ()), if step.letsGo then none else some ⟨path, none⟩) t' :=
    yields_end hstep hy
  rw [hok] at hend
  exact ⟨t', hend, hstored, hin⟩

theorem yields_appends_file (path : String) (h : Carries t location w text) (hl : location ≠ [])
    (texts : List String) : ∃ w' t', Yields (performAll ⟨path, some w⟩ (texts.map append)) t
        (texts.map fun _ => .ok (), some ⟨path, some w'⟩) t' ∧
      Carries t' location w' (text ++ String.join texts) := by
  induction texts generalizing t w text with
  | nil =>
    refine ⟨w, t, fun _ _ => rfl, ?_⟩
    rw [String.join_nil, String.append_empty]
    exact h
  | cons x texts ih =>
    obtain ⟨w₁, t₁, hfirst, hcarries, -⟩ := yields_append_file path h hl x
    obtain ⟨w', t', hrest, hcarries'⟩ := ih hcarries
    refine ⟨w', t', yields_performAll_cons hfirst hrest, ?_⟩
    rw [String.join_cons, ← String.append_assoc]
    exact hcarries'

end SinkStep

/-! ### Sinks for full devices -/

/-- A writer can take a text without writing: the text is shorter than the buffer and fits in what
is left of it. -/
def FileWriter.HasRoom (w : FileWriter FileHandle) (text : String) : Prop :=
  text.utf8ByteSize < capacity ∧ text.utf8ByteSize ≤ w.spare

instance (w : FileWriter FileHandle) (text : String) : Decidable (w.HasRoom text) :=
  inferInstanceAs (Decidable (_ ∧ _))

/-- The texts whose appends succeeded. -/
def accepted : List String → List (Except Failure Unit) → List String
  | text :: texts, .ok () :: answers => text :: accepted texts answers
  | _ :: texts, .error _ :: answers => accepted texts answers
  | _, _ => []

theorem accepted_all (texts : List String) :
    accepted texts (texts.map fun _ => .ok ()) = texts := by
  induction texts with
  | nil => rfl
  | cons text texts ih => rw [List.map_cons, accepted, ih]

namespace SinkStep

theorem yields_append_full (path pending text : String) (t : FileTree) :
    Yields ((append text).perform ⟨path, some ⟨.fullDevice, pending⟩⟩) t
      (if FileWriter.HasRoom ⟨.fullDevice, pending⟩ text then
          (.ok (), some ⟨path, some ⟨.fullDevice, pending ++ text⟩⟩)
        else (.error (.writeFailed path .noSpace),
          some ⟨path, some ⟨.fullDevice, pending⟩⟩)) t := by
  have happend : Yields (fun _ => FileWriter.append files ⟨.fullDevice, pending⟩ text) t
      (if FileWriter.HasRoom ⟨.fullDevice, pending⟩ text then
          (.ok (), ⟨.fullDevice, pending ++ text⟩)
        else (.error .noSpace, ⟨.fullDevice, pending⟩)) t :=
    FileWriter.yields_append_full pending text t
  split at happend
  · next hroom =>
    rw [if_pos hroom]
    exact yields_append happend
  · next hroom =>
    rw [if_neg hroom]
    exact yields_append happend

/-- What a sink for a full device has taken stays in its buffer. -/
theorem yields_appends_full (path pending : String) (texts : List String) (t : FileTree) :
    ∃ answers, Yields (performAll ⟨path, some ⟨.fullDevice, pending⟩⟩ (texts.map append)) t
      (answers, some ⟨path, some
        ⟨.fullDevice, pending ++ String.join (accepted texts answers)⟩⟩) t := by
  induction texts generalizing pending with
  | nil =>
    have hpending : pending ++ String.join (accepted [] []) = pending := String.append_empty
    refine ⟨[], ?_⟩
    rw [hpending]
    exact fun _ _ => rfl
  | cons text texts ih =>
    have hfirst := yields_append_full path pending text t
    split at hfirst
    · obtain ⟨answers, hrest⟩ := ih (pending ++ text)
      refine ⟨.ok () :: answers, ?_⟩
      rw [accepted, String.join_cons, ← String.append_assoc]
      exact yields_performAll_cons hfirst hrest
    · obtain ⟨answers, hrest⟩ := ih pending
      exact ⟨_, yields_performAll_cons hfirst hrest⟩

/-- In the end a sink for a full device fails if there is something in its buffer. -/
theorem yields_end_full (path pending : String) (t : FileTree) {step : SinkStep}
    (hstep : step.isAppend = false) :
    Yields (step.perform ⟨path, some ⟨.fullDevice, pending⟩⟩) t
      (step.reported (if pending = "" then .ok () else .error (.writeFailed path .noSpace)),
        if step.letsGo then none else some ⟨path, none⟩) t := by
  have hflush := FileWriter.yields_flush_full pending t
  split at hflush
  · next hempty =>
    rw [if_pos hempty]
    exact yields_end hstep hflush
  · next hempty =>
    rw [if_neg hempty]
    exact yields_end hstep hflush

end SinkStep

/-! ### Reports -/

/-- The bytes that have reached the file of a handle; none reach a full device. -/
def FileTree.arrived (t : FileTree) : FileHandle → ByteArray
  | .file location _ =>
    match t.entry? location with
    | some (.file bytes) => bytes
    | _ => .empty
  | .fullDevice => .empty

theorem join_ne_empty {texts : List String} (hmem : text ∈ texts) (hne : text ≠ "") :
    String.join texts ≠ "" := by
  intro hjoin
  have hnil : texts.flatMap String.toList = [] := by
    rw [← String.toList_join, hjoin]
    rfl
  exact hne (String.toList_eq_nil_iff.1 (List.flatMap_eq_nil_iff.1 hnil text hmem))

/-- How a sink for a handle takes texts, and how it is closed or given back after them. -/
structure FileSink.Closes (path : String) (handle : FileHandle) (t : FileTree)
    (texts : List String) (answers : List (Except Failure Unit)) (w : FileWriter FileHandle)
    (t₁ : FileTree) (result : Except Failure Unit) (t₂ : FileTree) : Prop where
  appends : Yields (SinkStep.performAll (.create path handle) (texts.map .append)) t
    (answers, some ⟨path, some w⟩) t₁
  close : Yields (SinkStep.close.perform ⟨path, some w⟩) t₁ (result, some ⟨path, none⟩) t₂
  release : Yields (SinkStep.release.perform ⟨path, some w⟩) t₁ (result, none) t₂
  /-- Success is reported just if all that was accepted has reached the file. -/
  ok_iff : result = .ok () ↔ t₂.arrived handle = (String.join (accepted texts answers)).toUTF8
  file : handle ≠ .fullDevice → (∀ answer ∈ answers, answer = .ok ()) ∧ result = .ok ()
  /-- One more text is accepted for a full device just if it is shorter than the buffer and fits in
  what the accepted texts have left of it. -/
  room : handle = .fullDevice → ∀ text, ∃ answer w',
    Yields ((SinkStep.append text).perform ⟨path, some w⟩) t₁ (answer, some ⟨path, some w'⟩) t₁ ∧
      (answer = .ok () ↔ text.utf8ByteSize < FileWriter.capacity ∧
        text.utf8ByteSize ≤
          FileWriter.capacity - (String.join (accepted texts answers)).utf8ByteSize)
  lost : handle = .fullDevice → (∃ text ∈ accepted texts answers, text ≠ "") →
    result = .error (.writeFailed path .noSpace)
  /-- After that, closing succeeds and nothing more is accepted. -/
  afterwards : ∀ steps : List SinkStep, (∀ step ∈ steps, step.letsGo = false) →
    Yields (SinkStep.performAll ⟨path, none⟩ steps) t₂
      (steps.map (SinkStep.answerClosed path), some ⟨path, none⟩) t₂

namespace FileSink

theorem closes_file (path : String) (hl : location ≠ [])
    (stored : t.entry? location = some (.file .empty)) (texts : List String) :
    ∃ answers w t₁ result t₂, Closes path (.file location 0) t texts answers w t₁ result t₂ := by
  have hcarries : Carries t location ⟨.file location "".utf8ByteSize, ""⟩ "" := .of_stored stored
  obtain ⟨w, t₁, happends, hcarries₁⟩ := SinkStep.yields_appends_file path hcarries hl texts
  obtain ⟨t₂, hflush, hstored, -⟩ := FileWriter.yields_flush_file hcarries₁ hl
  have harrived : t₂.arrived (.file location 0) = (String.join texts).toUTF8 := by
    rw [FileTree.arrived, hstored, String.empty_append]
  refine ⟨texts.map fun _ => .ok (), w, t₁, .ok (), t₂, ?_⟩
  exact {
    appends := happends
    close := SinkStep.yields_end rfl hflush
    release := SinkStep.yields_end rfl hflush
    ok_iff := by rw [accepted_all, harrived]; exact ⟨fun _ => rfl, fun _ => rfl⟩
    file := fun _ => ⟨by simp, rfl⟩
    room := fun h => by cases h
    lost := fun h => by cases h
    afterwards := fun _ h => SinkStep.yields_performAll_closed path h t₂ }

theorem closes_full (path : String) (texts : List String) (t : FileTree) :
    ∃ answers w t₁ result t₂, Closes path .fullDevice t texts answers w t₁ result t₂ := by
  obtain ⟨answers, happends⟩ := SinkStep.yields_appends_full path "" texts t
  rw [String.empty_append] at happends
  let result : Except Failure Unit :=
    if String.join (accepted texts answers) = "" then .ok ()
    else .error (.writeFailed path .noSpace)
  have hresult : result = .ok () ↔ String.join (accepted texts answers) = "" := by simp [result]
  have harrived : t.arrived .fullDevice = "".toUTF8 := rfl
  refine ⟨answers, ⟨.fullDevice, String.join (accepted texts answers)⟩, t, result, t, ?_⟩
  exact {
    appends := happends
    close := SinkStep.yields_end_full path _ t rfl
    release := SinkStep.yields_end_full path _ t rfl
    ok_iff := by
      rw [hresult, harrived]
      exact eq_comm.trans String.toByteArray_inj.symm
    file := fun h => absurd rfl h
    room := by
      intro _ text
      have happend := SinkStep.yields_append_full path (String.join (accepted texts answers)) text t
      split at happend
      · next hroom => exact ⟨_, _, happend, iff_of_true rfl hroom⟩
      · next hroom => exact ⟨_, _, happend, iff_of_false (by simp) hroom⟩
    lost := fun _ ⟨text, hmem, hne⟩ => if_neg (join_ne_empty hmem hne)
    afterwards := fun _ h => SinkStep.yields_performAll_closed path h t }

end FileSink

/-- No success is reported for lost bytes: a sink for whatever file or device was opened, and given
whatever texts, is closed or given back with success just if all that it accepted has arrived. -/
theorem close_ok_iff_arrived {dir name : String} {ask : Prompt σ} {s s' : σ}
    {k : FileSink FileHandle}
    (ho : (((FileTree.provider dir ask).openSink name).run t).run s = ((.opened k, t'), s')) :
    ∃ handle, k = .create (Path.join dir name) handle ∧ ∀ texts, ∃ answers w t₁ result t₂,
      FileSink.Closes (Path.join dir name) handle t' texts answers w t₁ result t₂ := by
  obtain ⟨handle, rfl, hfresh, -⟩ := FileTree.fresh_of_opened ho
  refine ⟨handle, rfl, fun texts => ?_⟩
  cases hfresh with
  | device => exact FileSink.closes_full _ texts t'
  | file below stored => exact FileSink.closes_file _ below stored texts

/-- A device in the place of the file, opened as agreed to. -/
theorem close_ok_iff_arrived_full :
    let t : FileTree := ⟨[(["full"], .fullDevice)], []⟩
    let ask : Prompt Unit := Prompt.ofPolicy .always
    (((FileTree.provider "" ask).openSink "full").run t).run () =
        ((.opened (.create "full" .fullDevice), t), ()) ∧
      ∀ texts, ∃ answers w t₁ result t₂,
        FileSink.Closes "full" .fullDevice t texts answers w t₁ result t₂ := by
  intro t ask
  have hsought (follow : Bool) : FileTree.Sought ⟨follow, true⟩ "full" [] :=
    ⟨by decide, by decide, by decide, by simp⟩
  have hcheck : FileTree.checkPath "full" = .ok () := by decide
  have htarget (follow : Bool) : t.target follow "full" = .ok (.taken ["full"] .fullDevice) :=
    FileTree.resolve_eq_ok_iff_follows.2 ⟨hcheck, .last (hsought follow) rfl (by simp) (by simp)⟩
  have hcreate : t.createNew "full" = (.error .alreadyExists, t) := by
    rw [FileTree.createNew, htarget]
  have hempty : t.createEmpty "full" = (.ok .fullDevice, t) := by
    rw [FileTree.createEmpty, htarget]
  have ho : (((FileTree.provider "" ask).openSink "full").run t).run () =
      ((.opened (.create "full" .fullDevice), t), ()) :=
    FileTree.run_openSink_asked hcreate rfl (FileTree.yields_consented hempty)
  obtain ⟨handle, hk, hcloses⟩ := close_ok_iff_arrived ho
  cases hk
  exact ⟨ho, hcloses⟩

end Scaffold
