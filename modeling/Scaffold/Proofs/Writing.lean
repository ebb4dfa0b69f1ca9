import Scaffold.Files.Sink
import Scaffold.Proofs.Resolution
import Scaffold.Proofs.Stores

/-!
Artifacts in a tree of files and directories.

A buffered writer carries the text that its file holds with what is pending behind it, and every
text that it takes is added to that. When the sink is released, nothing is pending any more.
-/
namespace Scaffold

variable {σ : Type} {t : FileTree} {location : Location} {name text : String}

/-- What a prompt answers for a path. It may look at the tree and depend on a state of its own. -/
abbrev Prompt (σ : Type) := String → FileTree → StateM σ (Except Failure Bool)

namespace FileTree

/-- A prompt leaves the tree alone. -/
def asking (ask : Prompt σ) (path : String) :
    StateT FileTree (StateM σ) (Except Failure Bool) := fun t => do
  let answer ← ask path t
  pure (answer, t)

abbrev files : FileSystem (StateT FileTree (StateM σ)) FileHandle := fileSystem

/-- The provider for a directory of a tree. -/
abbrev provider (dir : String) (ask : Prompt σ) :
    Provider (StateT FileTree (StateM σ)) (FileSink FileHandle) :=
  OutputDirectory.provider files ⟨dir, asking ask⟩

end FileTree

open FileTree (files)

/-- A writer for the file at a location carries a text. -/
inductive Carries (t : FileTree) (location : Location) : FileWriter FileHandle → String → Prop where
  | intro {written pending : String} (stored : t.entry? location = some (.file written.toUTF8)) :
      Carries t location ⟨.file location written.utf8ByteSize, pending⟩ (written ++ pending)

/-- What is written at the end of a file is appended to it. -/
theorem FileTree.run_write_end {written : String}
    (stored : t.entry? location = some (.file written.toUTF8))
    (hl : location.getLast? = some name) (x : String) (s : σ) :
    ∃ t', ((files.write (.file location written.utf8ByteSize) x).run t).run s =
        ((.ok (.file location (written ++ x).utf8ByteSize), t'), s) ∧
      t'.entry? location = some (.file (written ++ x).toUTF8) ∧ Beside name t t' := by
  have hsize : written.utf8ByteSize = written.toUTF8.size := rfl
  have happend : written.toUTF8 ++ x.toUTF8 = (written ++ x).toUTF8 := by
    simp only [String.toUTF8_eq_toByteArray, String.toByteArray_append]
  have hw : t.write (.file location written.utf8ByteSize) x =
      (.ok (.file location (written ++ x).utf8ByteSize),
        t.put location (.file (written ++ x).toUTF8)) := by
    rw [FileTree.write, stored]
    simp only []
    rw [overwrite, if_pos hsize, happend, String.utf8ByteSize_append]
  refine ⟨t.put location (.file (written ++ x).toUTF8), ?_, ?_, ?_⟩
  · exact congrArg (·, s) hw
  · rw [entry?_put t (ne_nil_of_getLast? hl), if_pos rfl]
  · exact beside_put hl (by simp [stored]) _

theorem Carries.of_stored (stored : t.entry? location = some (.file text.toUTF8)) :
    Carries t location ⟨.file location text.utf8ByteSize, ""⟩ text := by
  have h : Carries t location ⟨.file location text.utf8ByteSize, ""⟩ (text ++ "") := .intro stored
  rwa [String.append_empty] at h

namespace FileWriter

variable {w : FileWriter FileHandle}

theorem run_flush (h : Carries t location w text) (hl : location.getLast? = some name) (s : σ) :
    ∃ t', ((w.flush files).run t).run s =
        (((.ok (), ⟨.file location text.utf8ByteSize, ""⟩), t'), s) ∧
      t'.entry? location = some (.file text.toUTF8) ∧ FileTree.Beside name t t' := by
  obtain @⟨written, pending, stored⟩ := h
  rw [flush]
  split
  · next he =>
    have hp : pending = "" := by simpa using he
    rw [hp, String.append_empty]
    exact ⟨t, rfl, stored, .refl name t⟩
  · obtain ⟨t', hw, hs, hb⟩ := FileTree.run_write_end stored hl pending s
    exact ⟨t', run_run_bind hw, hs, hb⟩

/-- A text that is as long as the buffer goes straight to the file, so nothing may be pending. -/
theorem run_accept (h : Carries t location w text) (hl : location.getLast? = some name)
    {x : String} (hx : x.utf8ByteSize < capacity ∨ w.pending = "") (s : σ) :
    ∃ w' t', ((w.accept files x).run t).run s = (((.ok (), w'), t'), s) ∧
      Carries t' location w' (text ++ x) ∧ FileTree.Beside name t t' := by
  obtain @⟨written, pending, stored⟩ := h
  rw [accept]
  split
  · refine ⟨_, t, rfl, ?_, .refl name t⟩
    rw [String.append_assoc]
    exact .intro stored
  · next hlong =>
    have hp : pending = "" := hx.resolve_left hlong
    obtain ⟨t', hw, hs, hb⟩ := FileTree.run_write_end stored hl x s
    refine ⟨_, t', run_run_bind hw, ?_, hb⟩
    rw [hp, String.append_empty]
    exact .of_stored hs

theorem run_append (h : Carries t location w text) (hl : location.getLast? = some name)
    (x : String) (s : σ) :
    ∃ w' t', ((w.append files x).run t).run s = (((.ok (), w'), t'), s) ∧
      Carries t' location w' (text ++ x) ∧ FileTree.Beside name t t' := by
  rw [append]
  split
  · obtain ⟨t₁, hf, hs, hb⟩ := run_flush h hl s
    obtain ⟨w', t', ha, hc, hb'⟩ := run_accept (.of_stored hs) hl (x := x) (Or.inr rfl) s
    exact ⟨w', t', (run_run_bind hf).trans ha, hc, hb.trans hb'⟩
  · next hroom =>
    refine run_accept h hl ?_ s
    by_cases hx : x.utf8ByteSize < capacity
    · exact Or.inl hx
    · -- a buffer with room for this much is empty
      have hzero : w.pending.utf8ByteSize = 0 := by
        rw [spare] at hroom
        have hcap : capacity = 8192 := rfl
        omega
      exact Or.inr (String.utf8ByteSize_eq_zero_iff.1 hzero)

end FileWriter

namespace FileTree

variable {w : FileWriter FileHandle}

theorem run_write (dir path : String) (ask : Prompt σ) (h : Carries t location w text)
    (hl : location.getLast? = some name) (fs : List String) (s : σ) : ∃ w' t',
      (((provider dir ask).write fs ⟨path, some w⟩).run t).run s =
        (((.ok (String.join fs).utf8ByteSize, ⟨path, some w'⟩), t'), s) ∧
      Carries t' location w' (text ++ String.join fs) ∧ FileTree.Beside name t t' := by
  -- the text that is carried grows with the fragments, the file stays where it is
  induction fs generalizing t w text with
  | nil =>
    refine ⟨w, t, rfl, ?_, .refl name t⟩
    rw [String.join_nil, String.append_empty]
    exact h
  | cons f fs ih =>
    obtain ⟨w₁, t₁, ha, hc, hb⟩ := FileWriter.run_append h hl f s
    obtain ⟨w', t', hw, hc', hb'⟩ := ih hc
    have hk : (((provider dir ask).append ⟨path, some w⟩ f).run t).run s =
        (((.ok (), ⟨path, some w₁⟩), t₁), s) := run_run_bind ha
    refine ⟨w', t', ?_, ?_, hb.trans hb'⟩
    · rw [String.join_cons, String.utf8ByteSize_append]
      exact (run_run_bind hk).trans (run_run_bind hw)
    · rw [String.join_cons, ← String.append_assoc]
      exact hc'

theorem run_release (dir path : String) (ask : Prompt σ) (h : Carries t location w text)
    (hl : location.getLast? = some name) (s : σ) : ∃ t',
      (((provider dir ask).release ⟨path, some w⟩).run t).run s = ((.ok (), t'), s) ∧
      t'.entry? location = some (.file text.toUTF8) ∧ FileTree.Beside name t t' := by
  obtain ⟨t', hf, hs, hb⟩ := FileWriter.run_flush h hl s
  have hc : (((FileSink.close files ⟨path, some w⟩).run t).run s) =
      (((.ok (), ⟨path, none⟩), t'), s) := run_run_bind hf
  exact ⟨t', run_run_bind hc, hs, hb⟩

/-! ### Opening -/

/-- What becomes of a tree in which the file of a name is to be made in a directory. -/
inductive Makes (t : FileTree) (dir name : String) :
    Except IoFault FileHandle × FileTree → Prop where
  | refused (fault : IoFault) : Makes t dir name (.error fault, t)
  | made {location : Location} (reached : t.Reaches dir name location)
      (free : t.entry? location ≠ some .directory) :
      Makes t dir name (.ok (.file location 0), t.put location (.file .empty))

theorem makes_createNew (dir : String) (ht : t.Regular) (hn : Path.Plain name) :
    Makes t dir name (t.createNew (Path.join dir name)) := by
  rw [FileTree.createNew]
  cases hr : t.target false (Path.join dir name) with
  | error fault => exact .refused fault
  | ok landing =>
    obtain ⟨location, hl, rfl⟩ := (FileTree.resolve_eq_ok_iff ht hn _).1 hr
    rw [FileTree.landingAt]
    cases he : t.entry? location with
    | none => exact .made hl (by simp [he])
    | some e => exact .refused .alreadyExists

theorem makes_createEmpty (dir : String) (ht : t.Regular) (hn : Path.Plain name) :
    Makes t dir name (t.createEmpty (Path.join dir name)) := by
  rw [FileTree.createEmpty]
  cases hr : t.target true (Path.join dir name) with
  | error fault => exact .refused fault
  | ok landing =>
    obtain ⟨location, hl, rfl⟩ := (FileTree.resolve_eq_ok_iff ht hn _).1 hr
    rw [FileTree.landingAt]
    cases he : t.entry? location with
    | none => exact .made hl (by simp [he])
    | some e =>
      rcases ht _ _ he with rfl | ⟨bytes, rfl⟩
      · exact .refused .isDirectory
      · exact .made hl (by simp [he])

/-- What becomes of a tree in which a sink is to be opened. -/
inductive Opens (t : FileTree) (dir name : String) :
    Opening (FileSink FileHandle) × FileTree → Prop where
  | declined : Opens t dir name (.declined, t)
  | failed (failure : Failure) : Opens t dir name (.failed failure, t)
  | opened {location : Location} (reached : t.Reaches dir name location)
      (free : t.entry? location ≠ some .directory) :
      Opens t dir name (.opened (.create (Path.join dir name) (.file location 0)),
        t.put location (.file .empty))

theorem Makes.opens {dir : String} {file : Except IoFault FileHandle} {t' : FileTree}
    (h : Makes t dir name (file, t')) :
    Opens t dir name (OutputDirectory.opening (Path.join dir name) file, t') := by
  cases h with
  | refused fault => exact .failed _
  | made reached free => exact .opened reached free

theorem run_openSink (dir : String) (ask : Prompt σ) (ht : t.Regular) (hn : Path.Plain name)
    (s : σ) : ∃ answer s',
      (((provider dir ask).openSink name).run t).run s = (answer, s') ∧
      Opens t dir name answer := by
  have hnew := makes_createNew dir ht hn
  rcases hc : t.createNew (Path.join dir name) with ⟨file, t₁⟩
  have hrun : ((files.createNew (Path.join dir name)).run t).run s = ((file, t₁), s) :=
    congrArg (·, s) hc
  rw [hc] at hnew
  by_cases hexists : file = .error .alreadyExists
  · -- something is there, so the prompt is asked
    subst hexists
    cases hnew
    rcases ha : (ask (Path.join dir name) t).run s with ⟨consent, s₁⟩
    have hask : ((FileTree.asking ask (Path.join dir name)).run t).run s = ((consent, t), s₁) :=
      run_bind ha
    cases consent with
    | error failure => exact ⟨_, s₁, (run_run_bind hrun).trans (run_run_bind hask), .failed failure⟩
    | ok agreed =>
      cases agreed with
      | false => exact ⟨_, s₁, (run_run_bind hrun).trans (run_run_bind hask), .declined⟩
      | true =>
        have hempty := makes_createEmpty dir ht hn
        rcases he : t.createEmpty (Path.join dir name) with ⟨file, t₂⟩
        have hrun' : ((files.createEmpty (Path.join dir name)).run t).run s₁ = ((file, t₂), s₁) :=
          congrArg (·, s₁) he
        rw [he] at hempty
        exact ⟨_, s₁, (run_run_bind hrun).trans ((run_run_bind hask).trans (run_run_bind hrun')),
          hempty.opens⟩
  · refine ⟨(OutputDirectory.opening (Path.join dir name) file, t₁), s, ?_, hnew.opens⟩
    cases file with
    | ok handle => exact run_run_bind hrun
    | error fault =>
      cases fault with
      | alreadyExists => exact absurd rfl hexists
      | _ => exact run_run_bind hrun

/-- An artifact whose file has been made is written to the end. -/
theorem run_attempt_made {a : Assignment} {fs : List String} {path : String} {t₁ : FileTree}
    {s s₁ : σ} (dir : String) (ask : Prompt σ) (hf : a.body.fragments a.params = .ok fs)
    (hl : location.getLast? = some name) (hs : t₁.entry? location = some (.file .empty))
    (ho : (((provider dir ask).openSink a.path).run t).run s =
      ((.opened (.create path (.file location 0)), t₁), s₁)) :
    ∃ t', ((a.attempt (provider dir ask)).run t).run s =
        ((.written (String.join fs).utf8ByteSize, t'), s₁) ∧
      t'.entry? location = some (.file (String.join fs).toUTF8) ∧ Beside name t₁ t' := by
  have hempty : t₁.entry? location = some (.file "".toUTF8) := hs
  have hc : Carries t₁ location ⟨.file location 0, ""⟩ "" := .of_stored hempty
  obtain ⟨w, t₂, hw, hc₂, hb₂⟩ := run_write dir path ask hc hl fs s₁
  obtain ⟨t', hr, hs', hb'⟩ := run_release dir path ask hc₂ hl s₁
  rw [← Body.write_of_fragments hf] at hw
  rw [String.empty_append] at hs'
  exact ⟨t', (run_run_bind ho).trans ((run_run_bind hw).trans (run_run_bind hr)), hs',
    hb₂.trans hb'⟩

/-- What an attempt to write an artifact into a directory leaves there. -/
theorem settles_attempt {a : Assignment} {fs : List String} (dir : String) (ask : Prompt σ)
    (ht : t.Regular) (hf : a.body.fragments a.params = .ok fs) (hp : Path.Plain a.path) (s : σ) :
    ∃ attempt t' s', ((a.attempt (provider dir ask)).run t).run s = ((attempt, t'), s') ∧
      t'.Regular ∧ Settles (fun t path text => t.contents (Path.join dir path) = .ok text.toUTF8)
        a.path (String.join fs) t attempt t' := by
  obtain ⟨answer, s₁, ho, hopens⟩ := run_openSink dir ask ht hp s
  cases hopens with
  | declined => exact ⟨_, t, s₁, run_run_bind ho, ht, .spared rfl⟩
  | failed failure => exact ⟨_, t, s₁, run_run_bind ho, ht, .spared rfl⟩
  | @opened location reached free =>
    have hl := reached.getLast?
    have hs : entry? (t.put location (.file .empty)) location = some (.file .empty) := by
      rw [entry?_put t (ne_nil_of_getLast? hl), if_pos rfl]
    obtain ⟨t', hrun, hs', hb⟩ := run_attempt_made dir ask hf hl hs ho
    -- opening, writing and releasing have touched the one file alone
    have hall := (beside_put hl free .empty).trans hb
    refine ⟨_, t', s₁, hrun, hall.regular ht, .stored ?_ fun other x ho hne hx => ?_⟩
    · exact (contents_eq_ok_iff (hall.regular ht) hp).2 ⟨location, reached.beside hall, hs'⟩
    · exact contents_beside ht ho hne hall hx

end FileTree

end Scaffold
