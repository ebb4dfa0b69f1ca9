import Scaffold.Proofs.Handles

/-!
Making directories.

Whatever comes of it, making a directory and those above it only adds to a tree. Nothing is added
if the directory is there.
-/
namespace Scaffold

variable {t t' : FileTree} {path : String} {above : List String} {location : Location}

open FileTree (files Extends Sustains)

namespace FileTree

theorem extends_makeDirectory (t : FileTree) (path : String) :
    Extends t (t.makeDirectory path).2 := by
  rw [makeDirectory]
  cases hr : t.resolve ⟨false, false⟩ path (names path) with
  | error fault => exact .refl t
  | ok landing =>
    cases landing with
    | taken location e => exact .refl t
    | free location =>
      obtain ⟨-, hfollows⟩ := resolve_eq_ok_iff_follows.1 hr
      exact extends_put hfollows.entry?_free .directory

/-- A directory that could not be made may be there all the same. -/
def settle (path : String) (fault : IoFault) (σ : Type) :
    StateT FileTree (StateM σ) (Except IoFault Unit) := do
  if ← (files (σ := σ)).isDirectory path then pure (.ok ()) else pure (.error fault)

theorem yields_settle (t : FileTree) (path : String) (fault : IoFault) :
    Yields (settle path fault) t (if t.isDirectory path then .ok () else .error fault) t := by
  have hdir : Yields (fun σ => (files (σ := σ)).isDirectory path) t (t.isDirectory path) t :=
    fun _ _ => rfl
  refine hdir.bind fun σ s => ?_
  cases t.isDirectory path with
  | false => rfl
  | true => rfl

/-- An action that goes the same way whatever comes along, and only adds to the tree. -/
def Grows (x : (σ : Type) → StateT FileTree (StateM σ) (Except IoFault Unit)) (t : FileTree) :
    Prop :=
  ∃ result t', Yields x t result t' ∧ Extends t t'

theorem grows_ensureDirectory (t : FileTree) (path : String) :
    Grows (fun _ => files.ensureDirectory path) t := by
  have hx := t.extends_makeDirectory path
  rcases hm : t.makeDirectory path with ⟨result, t₁⟩
  rw [hm] at hx
  have hrun : Yields (fun _ => files.makeDirectory path) t result t₁ := fun _ s =>
    congrArg (·, s) hm
  cases result with
  | ok _ => exact ⟨_, t₁, hrun.bind fun _ _ => rfl, hx⟩
  | error fault => exact ⟨_, t₁, hrun.bind (yields_settle t₁ path fault), hx⟩

theorem grows_ensureBelow (t : FileTree) (path : String) (above : List String) :
    Grows (fun _ => files.ensureBelow path above) t := by
  induction above generalizing t path with
  | nil => exact grows_ensureDirectory t path
  | cons parent above ih =>
    have hx := t.extends_makeDirectory path
    rcases hm : t.makeDirectory path with ⟨result, t₁⟩
    rw [hm] at hx
    have hrun : Yields (fun _ => files.makeDirectory path) t result t₁ := fun _ s =>
      congrArg (·, s) hm
    cases result with
    | ok _ => exact ⟨_, t₁, hrun.bind fun _ _ => rfl, hx⟩
    | error fault =>
      cases fault with
      | notFound =>
        -- what is above is made, and then the directory is tried once more
        obtain ⟨result, t₂, hy, hx₂⟩ := ih t₁ parent
        cases result with
        | error fault => exact ⟨_, t₂, hrun.bind (hy.bind fun _ _ => rfl), hx.trans hx₂⟩
        | ok _ =>
          obtain ⟨result, t₃, hy₃, hx₃⟩ := grows_ensureDirectory t₂ path
          exact ⟨result, t₃, hrun.bind (hy.bind hy₃), (hx.trans hx₂).trans hx₃⟩
      | _ => exact ⟨_, t₁, hrun.bind (yields_settle t₁ path _), hx⟩

theorem grows_makeDirectories (t : FileTree) (path : String) :
    Grows (fun _ => files.makeDirectories path) t := by
  unfold FileSystem.makeDirectories
  split
  · exact ⟨_, t, fun _ _ => rfl, .refl t⟩
  · exact grows_ensureBelow t path _

/-! ### Directories that are there -/

/-- A path leads to a directory, the empty path to the one that relative paths start from. -/
def Leads (t : FileTree) (path : String) (location : Location) : Prop :=
  if path = "" then location = t.workingDirectory else t.status path = .ok (location, .directory)

theorem status_eq_ok_iff_follows {e : Entry} : t.status path = .ok (location, e) ↔
    checkPath path = .ok () ∧ t.Follows ⟨true, false⟩ mostLinks
      (origin t.workingDirectory path) (steps path) (.taken location e) := by
  rw [← resolve_eq_ok_iff_follows, status]
  cases t.resolve ⟨true, false⟩ path (steps path) with
  | error fault =>
    refine iff_of_false ?_ ?_
    · intro h
      cases h
    · intro h
      cases h
  | ok landing =>
    cases landing with
    | free l =>
      refine iff_of_false ?_ ?_
      · intro h
        cases h
      · intro h
        cases h
    | taken l e' =>
      constructor
      · intro h
        cases h
        rfl
      · intro h
        cases h
        rfl

/-- The names of a path lead to the directory that the path leads to. -/
theorem follows_names (h : t.status path = .ok (location, .directory)) :
    t.Follows ⟨true, false⟩ mostLinks (origin t.workingDirectory path) (names path)
      (.taken location .directory) := by
  obtain ⟨-, hfollows⟩ := status_eq_ok_iff_follows.1 h
  rw [steps] at hfollows
  split at hfollows
  · exact hfollows.of_slash
  · exact hfollows

theorem makeDirectory_present (h : t.status path = .ok (location, .directory)) :
    t.makeDirectory path = (.error .alreadyExists, t) := by
  obtain ⟨hcheck, -⟩ := status_eq_ok_iff_follows.1 h
  obtain ⟨l, e, hfollows⟩ := (follows_names h).exists_taken
  rw [makeDirectory, resolve_eq_ok_iff_follows.2 ⟨hcheck, hfollows⟩]

theorem isDirectory_iff : t.isDirectory path = true ↔
    ∃ location, t.status path = .ok (location, .directory) := by
  rw [isDirectory]
  constructor
  · intro h
    split at h
    · next location hstatus => exact ⟨location, hstatus⟩
    · cases h
  · rintro ⟨location, hstatus⟩
    rw [hstatus]

theorem yields_ensureBelow (h : t.isDirectory path = true) (above : List String) :
    Yields (fun _ => files.ensureBelow path above) t (.ok ()) t := by
  obtain ⟨location, hstatus⟩ := isDirectory_iff.1 h
  have hrun : Yields (fun _ => files.makeDirectory path) t (.error .alreadyExists) t :=
    fun _ s => congrArg (·, s) (makeDirectory_present hstatus)
  have hsettle := yields_settle t path .alreadyExists
  rw [if_pos h] at hsettle
  -- the first attempt finds the directory there, so what is above it does not matter
  cases above with
  | nil => exact hrun.bind hsettle
  | cons parent above => exact hrun.bind hsettle

theorem yields_makeDirectories (h : t.Leads path location) :
    Yields (fun _ => files.makeDirectories path) t (.ok ()) t := by
  rw [Leads] at h
  by_cases hempty : path = ""
  · subst hempty
    exact fun _ _ => rfl
  · rw [if_neg hempty] at h
    have hne : ¬ path.isEmpty = true := by simpa using hempty
    unfold FileSystem.makeDirectories
    simp only [if_neg hne]
    exact yields_ensureBelow (isDirectory_iff.2 ⟨location, h⟩) _

theorem Leads.sustains (h : t.Leads path location) (hs : Sustains t t') :
    t'.Leads path location := by
  rw [Leads] at h ⊢
  split
  · next hempty =>
    rw [if_pos hempty] at h
    rw [h, hs.workingDirectory]
  · next hfull =>
    rw [if_neg hfull, status_eq_ok_iff_follows] at h
    rw [status_eq_ok_iff_follows, hs.workingDirectory]
    exact ⟨h.1, h.2.sustains hs⟩

end FileTree

end Scaffold
