import Scaffold.Proofs.Following
import Scaffold.Proofs.Writing

/-!
What an open file can change.

Everything that is written through a handle goes to the one place the handle was opened at, and the
prompt has no part in it. So whatever becomes of a sink, all other entries of the tree stay.
-/
namespace Scaffold

variable {σ : Type} {t t' : FileTree}

/-- An action on a tree, for any state that comes along with it. -/
abbrev TreeAction (α : Type) := (σ : Type) → StateT FileTree (StateM σ) α

/-- An action that goes the same way whatever state comes along with the tree. -/
def Yields {α : Type} (x : (σ : Type) → StateT FileTree (StateM σ) α) (t : FileTree) (a : α)
    (t' : FileTree) : Prop :=
  ∀ (σ : Type) (s : σ), ((x σ).run t).run s = ((a, t'), s)

theorem Yields.bind {α β : Type} {x : (σ : Type) → StateT FileTree (StateM σ) α}
    {f : (σ : Type) → α → StateT FileTree (StateM σ) β} {t'' : FileTree} {a : α} {b : β}
    (hx : Yields x t a t') (hf : Yields (fun σ => f σ a) t' b t'') :
    Yields (fun σ => x σ >>= f σ) t b t'' := fun σ s =>
  (run_run_bind (hx σ s)).trans (hf σ s)

theorem Yields.eq_of_run {α : Type} {x : TreeAction α} {a b : α} {t' t'' : FileTree} {s s' : σ}
    (h : Yields x t a t') (h' : ((x σ).run t).run s = ((b, t''), s')) : a = b ∧ t' = t'' := by
  have hsame := (h σ s).symm.trans h'
  cases hsame
  exact ⟨rfl, rfl⟩

theorem Yields.unique {α : Type} {x : TreeAction α} {a b : α} {t' t'' : FileTree}
    (h : Yields x t a t') (h' : Yields x t b t'') : a = b ∧ t' = t'' := h.eq_of_run (h' Unit ())

/-- Trees that agree but for the entry at one place, if any. -/
structure FileTree.Within (place : Option Location) (t t' : FileTree) : Prop where
  elsewhere : ∀ location, some location ≠ place → t'.entry? location = t.entry? location
  workingDirectory : t'.workingDirectory = t.workingDirectory

namespace FileTree.Within

variable {place : Option Location}

theorem refl (place : Option Location) (t : FileTree) : Within place t t :=
  ⟨fun _ _ => rfl, rfl⟩

theorem trans {t'' : FileTree} (h : Within place t t') (h' : Within place t' t'') :
    Within place t t'' :=
  ⟨fun l hl => (h'.elsewhere l hl).trans (h.elsewhere l hl),
    h'.workingDirectory.trans h.workingDirectory⟩

theorem put {location : Location} (hl : location ≠ []) (e : Entry) :
    Within (some location) t (t.put location e) := by
  refine ⟨fun l h => ?_, rfl⟩
  rw [entry?_put t hl, if_neg]
  rintro rfl
  exact h rfl

/-- Changes at a place that was free add to a tree. -/
theorem extends_of_free {location : Location} (h : Within (some location) t t')
    (hfree : t.entry? location = none) : Extends t t' := by
  refine ⟨fun l e he => ?_, h.workingDirectory⟩
  rw [h.elsewhere, he]
  intro hl
  cases hl
  rw [hfree] at he
  cases he

end FileTree.Within

/-- The place of the file that a handle writes to; a full device has none. -/
def FileHandle.place : FileHandle → Option Location
  | .file location _ => some location
  | .fullDevice => none

open FileTree (files Within)

theorem Carries.place {location : Location} {w : FileWriter FileHandle} {text : String}
    (h : Carries t location w text) : w.handle.place = some location := by
  obtain ⟨-⟩ := h
  rfl

/-- What writing through a handle does. -/
theorem FileTree.yields_write (t : FileTree) (h : FileHandle) (text : String) :
    ∃ result t', Yields (fun _ => files.write h text) t result t' ∧ Within h.place t t' ∧
      ∀ h', result = .ok h' → h'.place = h.place := by
  have hrun : Yields (fun _ => files.write h text) t (t.write h text).1 (t.write h text).2 :=
    fun _ _ => rfl
  refine ⟨_, _, hrun, ?_⟩
  cases h with
  | fullDevice =>
    rw [write]
    split
    · exact ⟨.refl _ t, fun _ h => by cases h; rfl⟩
    · exact ⟨.refl _ t, fun _ h => by cases h⟩
  | file location offset =>
    rw [write]
    split
    · next old hfile =>
      have hdir : t.entry? location ≠ some .directory := by simp [hfile]
      exact ⟨.put (ne_nil_of_not_directory hdir) _, fun _ h => by cases h; rfl⟩
    · exact ⟨.refl _ t, fun _ h => by cases h⟩

namespace FileWriter

variable (w : FileWriter FileHandle) (t : FileTree)

/-- An operation on a writer stays at the place of its handle. -/
def Stays (x : (σ : Type) → StateT FileTree (StateM σ) (Except IoFault Unit × FileWriter FileHandle))
    : Prop :=
  ∃ result w' t', Yields x t (result, w') t' ∧ Within w.handle.place t t' ∧
    w'.handle.place = w.handle.place

theorem stays_flush : w.Stays t fun _ => w.flush files := by
  unfold flush
  split
  · exact ⟨_, w, t, fun _ _ => rfl, .refl _ t, rfl⟩
  · obtain ⟨result, t', hrun, hin, hplace⟩ := t.yields_write w.handle w.pending
    cases result with
    | ok handle => exact ⟨_, _, t', hrun.bind fun _ _ => rfl, hin, hplace handle rfl⟩
    | error fault => exact ⟨_, w, t', hrun.bind fun _ _ => rfl, hin, rfl⟩

theorem stays_accept (text : String) : w.Stays t fun _ => w.accept files text := by
  unfold accept
  split
  · exact ⟨_, _, t, fun _ _ => rfl, .refl _ t, rfl⟩
  · obtain ⟨result, t', hrun, hin, hplace⟩ := t.yields_write w.handle text
    cases result with
    | ok handle => exact ⟨_, _, t', hrun.bind fun _ _ => rfl, hin, hplace handle rfl⟩
    | error fault => exact ⟨_, w, t', hrun.bind fun _ _ => rfl, hin, rfl⟩

theorem stays_append (text : String) : w.Stays t fun _ => w.append files text := by
  unfold append
  split
  · -- there is no room left, so what is pending is written first
    obtain ⟨result, w₁, t₁, hflush, hin, hplace⟩ := stays_flush w t
    cases result with
    | error fault => exact ⟨_, w₁, t₁, hflush.bind fun _ _ => rfl, hin, hplace⟩
    | ok _ =>
      obtain ⟨result, w', t', haccept, hin', hplace'⟩ := stays_accept w₁ t₁ text
      rw [hplace] at hin' hplace'
      exact ⟨result, w', t', hflush.bind haccept, hin.trans hin', hplace'⟩
  · exact stays_accept w t text

end FileWriter

namespace FileSink

/-- Sinks for files, as every provider for a directory has them. -/
def sink (σ : Type) : Sink (StateT FileTree (StateM σ)) (FileSink FileHandle) :=
  ⟨fun k text => k.append files text⟩

/-- How such a provider takes a sink back. -/
def release (σ : Type) (k : FileSink FileHandle) :
    StateT FileTree (StateM σ) (Except Failure Unit) := do
  let (result, _) ← k.close files
  pure result

/-- What is written through a sink goes to the place of its handle. -/
theorem stays_write (fs : List String) (path : String) (w : FileWriter FileHandle) (t : FileTree) :
    ∃ result w' t', Yields (fun σ => (sink σ).write fs ⟨path, some w⟩) t
        (result, ⟨path, some w'⟩) t' ∧
      Within w.handle.place t t' ∧ w'.handle.place = w.handle.place := by
  -- each fragment finds the handle at the place where the one before has left it
  induction fs generalizing w t with
  | nil => exact ⟨_, w, t, fun _ _ => rfl, .refl _ t, rfl⟩
  | cons f fs ih =>
    obtain ⟨result, w₁, t₁, happend, hin, hplace⟩ := w.stays_append t f
    have hk : Yields (fun σ => (sink σ).append ⟨path, some w⟩ f) t
        ((FileSink.mk path (some w)).failing result, ⟨path, some w₁⟩) t₁ :=
      happend.bind fun _ _ => rfl
    cases result with
    | error fault => exact ⟨_, w₁, t₁, hk.bind fun _ _ => rfl, hin, hplace⟩
    | ok _ =>
      obtain ⟨result, w', t', hrest, hin', hplace'⟩ := ih w₁ t₁
      rw [hplace] at hin' hplace'
      exact ⟨_, w', t', hk.bind (hrest.bind fun _ _ => rfl), hin.trans hin', hplace'⟩

theorem stays_release (path : String) (w : FileWriter FileHandle) (t : FileTree) :
    ∃ result t', Yields (fun σ => release σ ⟨path, some w⟩) t result t' ∧
      Within w.handle.place t t' := by
  obtain ⟨result, w', t', hflush, hin, -⟩ := w.stays_flush t
  have hclose : Yields (fun σ => (FileSink.mk path (some w)).close (files (σ := σ))) t
      ((FileSink.mk path (some w)).failing result, ⟨path, none⟩) t' :=
    hflush.bind fun _ _ => rfl
  exact ⟨_, t', hclose.bind fun _ _ => rfl, hin⟩

end FileSink

/-! ### Full devices -/

theorem FileTree.yields_write_full (t : FileTree) {text : String} (htext : text ≠ "") :
    Yields (fun _ => files.write .fullDevice text) t (.error .noSpace) t := by
  have hfull : t.write .fullDevice text = (.error .noSpace, t) := by
    have hempty : ¬ text.isEmpty = true := by simpa using htext
    rw [write]
    exact if_neg hempty
  intro σ s
  exact congrArg (·, s) hfull

namespace FileWriter

theorem yields_flush_full (pending : String) (t : FileTree) :
    Yields (fun _ => (⟨.fullDevice, pending⟩ : FileWriter FileHandle).flush files) t
      (if pending = "" then .ok () else .error .noSpace, ⟨.fullDevice, pending⟩) t := by
  unfold flush
  by_cases hpending : pending = ""
  · subst hpending
    intro _ _
    rfl
  · have hempty : ¬ pending.isEmpty = true := by simpa using hpending
    simp only [if_neg hempty, if_neg hpending]
    apply (t.yields_write_full hpending).bind
    intro _ _
    rfl

/-- A text is only taken if it goes into the buffer, and then stays there. -/
theorem yields_accept_full (pending text : String) (t : FileTree) :
    Yields (fun _ => (⟨.fullDevice, pending⟩ : FileWriter FileHandle).accept files text) t
      (if text.utf8ByteSize < capacity then (.ok (), ⟨.fullDevice, pending ++ text⟩)
        else (.error .noSpace, ⟨.fullDevice, pending⟩)) t := by
  unfold accept
  by_cases hshort : text.utf8ByteSize < capacity
  · simp only [if_pos hshort]
    intro _ _
    rfl
  · simp only [if_neg hshort]
    have htext : text ≠ "" := by
      intro hempty
      apply hshort
      rw [hempty]
      decide
    apply (t.yields_write_full htext).bind
    intro _ _
    rfl

/-- A text that is shorter than the buffer and fits in what is left of it is taken, and no other. -/
theorem yields_append_full (pending text : String) (t : FileTree) :
    Yields (fun _ => (⟨.fullDevice, pending⟩ : FileWriter FileHandle).append files text) t
      (if text.utf8ByteSize < capacity ∧ text.utf8ByteSize ≤ capacity - pending.utf8ByteSize then
          (.ok (), ⟨.fullDevice, pending ++ text⟩)
        else (.error .noSpace, ⟨.fullDevice, pending⟩)) t := by
  have haccept := yields_accept_full pending text t
  unfold append spare
  by_cases hroom : capacity - pending.utf8ByteSize < text.utf8ByteSize
  · have hnot : ¬ (text.utf8ByteSize < capacity ∧
        text.utf8ByteSize ≤ capacity - pending.utf8ByteSize) := by omega
    simp only [if_pos hroom, if_neg hnot]
    have hflush := yields_flush_full pending t
    by_cases hpending : pending = ""
    · -- an empty buffer can be written out, but this text does not fit in it either
      subst hpending
      have hlong : ¬ text.utf8ByteSize < capacity := by
        have hzero : "".utf8ByteSize = 0 := rfl
        omega
      rw [if_neg hlong] at haccept
      exact hflush.bind haccept
    · rw [if_neg hpending] at hflush
      apply hflush.bind
      intro _ _
      rfl
  · have hfits : (text.utf8ByteSize < capacity ∧
        text.utf8ByteSize ≤ capacity - pending.utf8ByteSize) ↔ text.utf8ByteSize < capacity := by
      omega
    simp only [if_neg hroom, hfits]
    exact haccept

end FileWriter

namespace FileSink

/-- A sink for a full device holds a text back, or fails for want of space. -/
theorem yields_write_full (fs : List String) (path pending : String) (t : FileTree) :
    ∃ result pending', Yields (fun σ => (sink σ).write fs ⟨path, some ⟨.fullDevice, pending⟩⟩) t
        (result, ⟨path, some ⟨.fullDevice, pending'⟩⟩) t ∧
      (result = .error (.writeFailed path .noSpace) ∨
        (∃ n, result = .ok n) ∧ pending' = pending ++ String.join fs) := by
  induction fs generalizing pending with
  | nil =>
    refine ⟨.ok 0, pending, fun _ _ => rfl, Or.inr ⟨⟨0, rfl⟩, ?_⟩⟩
    rw [String.join_nil, String.append_empty]
  | cons f fs ih =>
    have happend := FileWriter.yields_append_full pending f t
    split at happend
    · have hk : Yields (fun σ => (sink σ).append ⟨path, some ⟨.fullDevice, pending⟩⟩ f) t
          (.ok (), ⟨path, some ⟨.fullDevice, pending ++ f⟩⟩) t := happend.bind fun _ _ => rfl
      obtain ⟨result, pending', hrest, hresult⟩ := ih (pending ++ f)
      rcases hresult with rfl | ⟨⟨n, rfl⟩, rfl⟩
      · exact ⟨_, pending', hk.bind (hrest.bind fun _ _ => rfl), Or.inl rfl⟩
      · refine ⟨_, _, hk.bind (hrest.bind fun _ _ => rfl), Or.inr ⟨⟨_, rfl⟩, ?_⟩⟩
        rw [String.join_cons, String.append_assoc]
    · have hk : Yields (fun σ => (sink σ).append ⟨path, some ⟨.fullDevice, pending⟩⟩ f) t
          (.error (.writeFailed path .noSpace), ⟨path, some ⟨.fullDevice, pending⟩⟩) t :=
        happend.bind fun _ _ => rfl
      exact ⟨_, pending, hk.bind fun _ _ => rfl, Or.inl rfl⟩

theorem yields_release_full (path pending : String) (t : FileTree) :
    Yields (fun σ => release σ ⟨path, some ⟨.fullDevice, pending⟩⟩) t
      (if pending = "" then .ok () else .error (.writeFailed path .noSpace)) t := by
  have hclose : Yields (fun σ => (FileSink.mk path (some ⟨.fullDevice, pending⟩)).close
      (files (σ := σ))) t ((FileSink.mk path (some ⟨FileHandle.fullDevice, pending⟩)).failing
        (if pending = "" then .ok () else .error .noSpace), ⟨path, none⟩) t :=
    (FileWriter.yields_flush_full pending t).bind fun _ _ => rfl
  by_cases hpending : pending = ""
  · simp only [if_pos hpending] at hclose ⊢
    exact hclose.bind fun _ _ => rfl
  · simp only [if_neg hpending] at hclose ⊢
    exact hclose.bind fun _ _ => rfl

end FileSink

/-- An attempt whose sink is opened goes on in the same way, whatever the prompt. -/
theorem FileTree.run_attempt_opened {a : Assignment} {fs : List String}
    (hf : a.body.fragments a.params = .ok fs) (dir : String) {k k' : FileSink FileHandle}
    {result : Except Failure Nat} {released : Except Failure Unit} {t₁ t₂ t₃ : FileTree}
    (hw : Yields (fun σ => (FileSink.sink σ).write fs k) t₁ (result, k') t₂)
    (hr : Yields (fun σ => FileSink.release σ k') t₂ released t₃) {ask : Prompt σ} {s s₁ : σ}
    (ho : (((FileTree.provider dir ask).openSink a.path).run t).run s = ((.opened k, t₁), s₁)) :
    ((a.attempt (FileTree.provider dir ask)).run t).run s =
      ((.ofResults result released, t₃), s₁) := by
  have hwrite : (((FileTree.provider dir ask).write fs k).run t₁).run s₁ =
      (((result, k'), t₂), s₁) := hw σ s₁
  have hrelease : (((FileTree.provider dir ask).release k').run t₂).run s₁ =
      ((released, t₃), s₁) := hr σ s₁
  rw [← Body.write_of_fragments hf] at hwrite
  exact (run_run_bind ho).trans ((run_run_bind hwrite).trans (run_run_bind hrelease))

/-- A text that is not empty does not come through to a full device. -/
theorem FileTree.run_attempt_full {a : Assignment} {fs : List String}
    (hf : a.body.fragments a.params = .ok fs) (htext : String.join fs ≠ "") {dir path : String}
    {ask : Prompt σ} {s s₁ : σ} (ho : (((FileTree.provider dir ask).openSink a.path).run t).run s =
      ((.opened (.create path .fullDevice), t'), s₁)) :
    ((a.attempt (FileTree.provider dir ask)).run t).run s =
      ((.broken (.writeFailed path .noSpace), t'), s₁) := by
  obtain ⟨result, pending, hw, hresult⟩ := FileSink.yields_write_full fs path "" t'
  have hr := FileSink.yields_release_full path pending t'
  have hrun := FileTree.run_attempt_opened hf dir hw hr ho
  rcases hresult with rfl | ⟨⟨n, rfl⟩, rfl⟩
  · exact hrun
  · -- all of the text is pending until the sink is released
    rw [String.empty_append, if_neg htext] at hrun
    exact hrun

end Scaffold
