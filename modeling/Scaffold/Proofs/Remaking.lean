import Scaffold.Proofs.Ancestors
import Scaffold.Proofs.Directories

/-!
Making directories a second time.

In a tree without links a directory that can be made, or is there, has all directories above it. So
a directory that could not be made because of one above it cannot be made a second time either, and
the second time adds nothing to the tree.
-/
namespace Scaffold

variable {t t' : FileTree} {here there location : Location} {path parent name : String}
  {above way more : List String} {links : Nat}

open FileTree (files turns)

namespace FileTree

variable {purpose : Purpose}

/-! ### Names without links -/

theorem Follows.descends (ht : t.Linkless)
    (h : t.Follows purpose links here way (.taken location .directory)) :
    t.Descends here way location := by
  generalize hl : Landing.taken location .directory = landing at h
  induction h with
  | stop =>
    cases hl
    exact .stop _
  | skip empty _ ih => exact .skip empty (ih hl)
  | up _ ih => exact .up (ih hl)
  | free => cases hl
  | into sought found _ ih => exact .into sought.full sought.down sought.short found (ih hl)
  | link _ found => exact absurd found (ht _ _)
  | stay => cases hl
  | last _ _ nodir =>
    cases hl
    exact absurd rfl nodir

/-- All names but the last one lead to the directory of a free place. -/
theorem Follows.descends_free (ht : t.Linkless)
    (h : t.Follows purpose links here way (.free location)) : ∃ init name there,
      way = init ++ [name] ∧ location = there ++ [name] ∧ t.Descends here init there ∧
        Sought purpose name [] := by
  generalize hl : Landing.free location = landing at h
  induction h with
  | stop => cases hl
  | @skip _ _ first _ _ empty _ ih =>
    obtain ⟨init, name, there, rfl, hplace, hdescends, hsought⟩ := ih hl
    exact ⟨first :: init, name, there, rfl, hplace, .skip empty hdescends, hsought⟩
  | up _ ih =>
    obtain ⟨init, name, there, rfl, hplace, hdescends, hsought⟩ := ih hl
    exact ⟨".." :: init, name, there, rfl, hplace, .up hdescends, hsought⟩
  | free sought =>
    cases hl
    exact ⟨[], _, _, rfl, rfl, .stop _, sought⟩
  | @into _ _ first _ _ sought found _ ih =>
    obtain ⟨init, name, there, rfl, hplace, hdescends, hsought⟩ := ih hl
    exact ⟨first :: init, name, there, rfl, hplace,
      .into sought.full sought.down sought.short found hdescends, hsought⟩
  | link _ found => exact absurd found (ht _ _)
  | stay => cases hl
  | last => cases hl

theorem Descends.follows (h : t.Descends here way there) (links : Nat) :
    t.Follows ⟨true, false⟩ links here way (.taken there .directory) := by
  induction h with
  | stop here => exact .stop links here
  | skip empty _ ih => exact .skip empty ih
  | up _ ih => exact .up ih
  | into full down short found _ ih => exact .into ⟨full, down, short, by simp⟩ found ih

theorem descends_append : t.Descends here (way ++ more) there ↔
    ∃ location, t.Descends here way location ∧ t.Descends location more there := by
  constructor
  · intro h
    induction way generalizing here with
    | nil => exact ⟨here, .stop here, h⟩
    | cons name way ih =>
      by_cases hskip : name = "" ∨ name = "."
      · obtain ⟨l, hway, hmore⟩ := ih ((descends_skip hskip).1 h)
        exact ⟨l, .skip hskip hway, hmore⟩
      · by_cases hup : name = ".."
        · subst hup
          obtain ⟨l, hway, hmore⟩ := ih (descends_up.1 h)
          exact ⟨l, .up hway, hmore⟩
        · obtain ⟨hshort, hfound, hrest⟩ := (descends_into hskip hup).1 h
          obtain ⟨l, hway, hmore⟩ := ih hrest
          exact ⟨l, .into hskip hup hshort hfound hway, hmore⟩
  · rintro ⟨l, hway, hmore⟩
    induction hway with
    | stop => exact hmore
    | skip empty _ ih => exact .skip empty (ih hmore)
    | up _ ih => exact .up (ih hmore)
    | into full down short found _ ih => exact .into full down short found (ih hmore)

/-- Dots make no difference to where names lead. -/
theorem descends_filter : t.Descends here (way.filter (· ≠ ".")) there ↔
    t.Descends here way there := by
  induction way generalizing here with
  | nil => exact Iff.rfl
  | cons name way ih =>
    by_cases hdot : name = "."
    · rw [List.filter_cons_of_neg (by simpa using hdot), ih, descends_skip (Or.inr hdot)]
    · rw [List.filter_cons_of_pos (by simpa using hdot)]
      by_cases hempty : name = ""
      · rw [descends_skip (Or.inl hempty), descends_skip (Or.inl hempty), ih]
      · by_cases hup : name = ".."
        · rw [hup, descends_up, descends_up, ih]
        · have hfull : ¬ (name = "" ∨ name = ".") := not_or.2 ⟨hempty, hdot⟩
          rw [descends_into hfull hup, descends_into hfull hup, ih]

/-! ### Directories that are there -/

/-- A directory is there if its names lead to it. -/
theorem isDirectory_of_descends (hc : checkPath path = .ok ())
    (h : t.Descends (origin t.workingDirectory path) (names path) location) :
    t.isDirectory path = true := by
  have hsteps : t.Descends (origin t.workingDirectory path) (steps path) location := by
    rw [steps]
    split
    · exact descends_append.2 ⟨location, h, .skip (Or.inl rfl) (.stop location)⟩
    · exact h
  exact isDirectory_iff.2
    ⟨location, status_eq_ok_iff_follows.2 ⟨hc, hsteps.follows mostLinks⟩⟩

theorem descends_of_isDirectory (ht : t.Linkless) (h : t.isDirectory path = true) :
    ∃ location, t.Descends (origin t.workingDirectory path) (turns path) location := by
  obtain ⟨location, hstatus⟩ := isDirectory_iff.1 h
  exact ⟨location, descends_filter.2 ((follows_names hstatus).descends ht)⟩

/-! ### Directories that are made -/

theorem linkless_put (ht : t.Linkless) (hl : location ≠ []) {e : Entry}
    (he : ∀ target, e ≠ .link target) : (t.put location e).Linkless := by
  intro l target hfound
  rw [entry?_put t hl] at hfound
  split at hfound
  · exact he target (Option.some.inj hfound)
  · exact ht l target hfound

/-- A directory that is made in a tree without links has its place below the names before its last
one, and is there afterwards. -/
theorem made_of_makeDirectory (ht : t.Linkless) (h : t.makeDirectory path = (.ok (), t')) :
    (∃ init name there, names path = init ++ [name] ∧ name ≠ "." ∧
      t.Descends (origin t.workingDirectory path) init there) ∧
    t'.Linkless ∧ t'.isDirectory path = true := by
  rw [makeDirectory] at h
  cases hr : t.resolve ⟨false, false⟩ path (names path) with
  | error fault =>
    rw [hr] at h
    cases h
  | ok landing =>
    rw [hr] at h
    cases landing with
    | taken location e => cases h
    | free location =>
      cases h
      obtain ⟨hc, hfollows⟩ := resolve_eq_ok_iff_follows.1 hr
      obtain ⟨init, name, there, hnames, rfl, hdescends, hsought⟩ := hfollows.descends_free ht
      have hne : there ++ [name] ≠ [] := by simp
      have hdot : name ≠ "." := fun hname => hsought.full (Or.inr hname)
      refine ⟨⟨init, name, there, hnames, hdot, hdescends⟩, linkless_put ht hne (by simp), ?_⟩
      -- the same names lead through the new directory now
      have hextends := extends_put hfollows.entry?_free .directory
      have hmade : entry? (t.put (there ++ [name]) .directory) (there ++ [name]) =
          some .directory := by rw [entry?_put t hne, if_pos rfl]
      have hinit := hdescends.mono fun l hl => hextends.entries l _ hl
      have hname := Descends.into hsought.full hsought.down hsought.short hmade (.stop _)
      have hall := descends_append.2 ⟨there, hinit, hname⟩
      rw [← hnames] at hall
      exact isDirectory_of_descends hc hall

theorem makeDirectory_error {fault : IoFault} (h : (t.makeDirectory path).1 = .error fault) :
    t.makeDirectory path = (.error fault, t) := by
  rw [makeDirectory] at h ⊢
  cases hr : t.resolve ⟨false, false⟩ path (names path) with
  | error fault =>
    rw [hr] at h
    cases h
    rfl
  | ok landing =>
    rw [hr] at h
    cases landing with
    | taken location e =>
      cases h
      rfl
    | free location => cases h

/-- What can be made or is there has the directory right above it. -/
theorem isDirectory_above (ht : t.Linkless) (ha : Path.Above path parent)
    (hc : checkPath parent = .ok ())
    (h : t.isDirectory path = true ∨ (t.makeDirectory path).1 = .ok ()) :
    t.isDirectory parent = true := by
  obtain ⟨last, hturns⟩ := ha.turns_eq
  have horigin : origin t.workingDirectory parent = origin t.workingDirectory path := by
    rw [origin, origin, ha.absolute]
  have hparent : ∃ location,
      t.Descends (origin t.workingDirectory path) (turns parent) location := by
    rcases h with h | h
    · obtain ⟨location, hdescends⟩ := descends_of_isDirectory ht h
      rw [hturns, descends_append] at hdescends
      obtain ⟨l, hdescends, -⟩ := hdescends
      exact ⟨l, hdescends⟩
    · obtain ⟨⟨init, name, there, hnames, hdot, hdescends⟩, -⟩ :=
        made_of_makeDirectory ht (Prod.ext h rfl)
      have hinit : turns path = init.filter (· ≠ ".") ++ [name] := by
        rw [turns, hnames, List.filter_append]
        simp [hdot]
      rw [hinit] at hturns
      obtain ⟨hinit, -⟩ := List.append_inj' hturns rfl
      rw [← hinit]
      exact ⟨there, descends_filter.2 hdescends⟩
  obtain ⟨location, hdescends⟩ := hparent
  rw [← horigin] at hdescends
  exact isDirectory_of_descends hc (descends_filter.1 hdescends)

/-! ### Making a directory -/

/-- A directory is not there and cannot be made. -/
structure Barred (t : FileTree) (path : String) (fault : IoFault) : Prop where
  unmade : t.makeDirectory path = (.error fault, t)
  missing : t.isDirectory path = false

theorem yields_makeDirectory (t : FileTree) (path : String) :
    Yields (fun _ => files.makeDirectory path) t (t.makeDirectory path).1
      (t.makeDirectory path).2 := fun _ _ => rfl

theorem Barred.yields_makeDirectory {fault : IoFault} (h : t.Barred path fault) :
    Yields (fun _ => files.makeDirectory path) t (.error fault) t := by
  have hrun := t.yields_makeDirectory path
  rwa [h.unmade] at hrun

theorem Barred.yields_settle {fault : IoFault} (h : t.Barred path fault) :
    Yields (settle path fault) t (.error fault) t := by
  have hsettle := FileTree.yields_settle t path fault
  rwa [h.missing, if_neg Bool.false_ne_true] at hsettle

/-- A way to make a directory comes to one that is there, or finds it barred. -/
inductive Ensures (t : FileTree) (path : String) (x : TreeAction (Except IoFault Unit)) :
    Prop where
  | present {t' : FileTree} (yields : Yields x t (.ok ()) t') (linkless : t'.Linkless)
      (isDirectory : t'.isDirectory path = true) : Ensures t path x
  | barred {fault : IoFault} (barred : t.Barred path fault) (yields : Yields x t (.error fault) t) :
      Ensures t path x

/-- Looking once more for a directory that could not be made. -/
theorem ensures_of_settle (ht : t.Linkless) {fault : IoFault} {x : TreeAction (Except IoFault Unit)}
    (hm : t.makeDirectory path = (.error fault, t))
    (hy : Yields x t (if t.isDirectory path then .ok () else .error fault) t) :
    Ensures t path x := by
  cases hdir : t.isDirectory path with
  | true =>
    rw [if_pos hdir] at hy
    exact .present hy ht hdir
  | false =>
    rw [hdir, if_neg Bool.false_ne_true] at hy
    exact .barred ⟨hm, hdir⟩ hy

/-- A directory that is made is there, and nothing changes if it is not made. -/
theorem made_or_not (ht : t.Linkless) (path : String) :
    (∃ t', Yields (fun _ => files.makeDirectory path) t (.ok ()) t' ∧ t'.Linkless ∧
      t'.isDirectory path = true) ∨
    ∃ fault, t.makeDirectory path = (.error fault, t) ∧
      Yields (fun _ => files.makeDirectory path) t (.error fault) t := by
  have hrun := t.yields_makeDirectory path
  rcases hm : t.makeDirectory path with ⟨result, t'⟩
  rw [hm] at hrun
  cases result with
  | ok _ =>
    obtain ⟨-, ht', hdir⟩ := made_of_makeDirectory ht hm
    exact Or.inl ⟨t', hrun, ht', hdir⟩
  | error fault =>
    have hsame := makeDirectory_error (congrArg Prod.fst hm)
    cases hm.symm.trans hsame
    exact Or.inr ⟨fault, rfl, hrun⟩

theorem ensures_ensureDirectory (ht : t.Linkless) (path : String) :
    Ensures t path fun _ => files.ensureDirectory path := by
  rcases made_or_not ht path with ⟨t', hrun, ht', hdir⟩ | ⟨fault, hsame, hrun⟩
  · exact .present (hrun.bind fun _ _ => rfl) ht' hdir
  · exact ensures_of_settle ht hsame (hrun.bind (yields_settle t path fault))

/-! ### Making the directories above it, too -/

/-- Where a directory is barred, and making those above it adds nothing, making all of them adds
nothing either, and fails. -/
theorem Barred.yields_ensureBelow {fault : IoFault} {result : Except IoFault Unit}
    (h : t.Barred path fault)
    (hy : Yields (fun _ => files.ensureBelow parent above) t result t) : ∃ fault',
    Yields (fun _ => files.ensureBelow path (parent :: above)) t (.error fault') t := by
  have hrun := h.yields_makeDirectory
  have hsettle := h.yields_settle
  cases fault with
  | notFound =>
    cases result with
    | error fault => exact ⟨fault, hrun.bind (hy.bind fun _ _ => rfl)⟩
    | ok _ => exact ⟨.notFound, hrun.bind (hy.bind (hrun.bind hsettle))⟩
  | _ => exact ⟨_, hrun.bind hsettle⟩

/-- Nothing is made of a path that cannot be looked up. -/
theorem yields_ensureBelow_unchecked {fault : IoFault} (hc : checkPath path = .error fault)
    (hne : path ≠ "") (t : FileTree) (above : List String) :
    Yields (fun _ => files.ensureBelow path above) t (.error fault) t := by
  have hbarred : t.Barred path fault := by
    refine ⟨?_, ?_⟩
    · rw [makeDirectory, resolve, hc]
      rfl
    · rw [isDirectory, status, resolve, hc]
      rfl
  have hrun := hbarred.yields_makeDirectory
  have hfound : fault ≠ .notFound := by
    intro hfound
    subst hfound
    have hempty : ¬ path.isEmpty = true := by simpa using hne
    rw [checkPath, if_neg hempty] at hc
    split at hc
    · cases hc
    · split at hc <;> cases hc
  cases above with
  | nil => exact hrun.bind hbarred.yields_settle
  | cons parent above =>
    cases fault with
    | notFound => exact absurd rfl hfound
    | _ => exact hrun.bind hbarred.yields_settle

/-- What making directories once leaves for a second time: the directory, or a tree in which it
fails again and to which nothing is added any more. -/
structure Settled (path : String) (x : TreeAction (Except IoFault Unit))
    (result : Except IoFault Unit) (t' : FileTree) : Prop where
  linkless : t'.Linkless
  present : result = .ok () → t'.isDirectory path = true
  failing : ∀ fault, result = .error fault → ∃ fault', Yields x t' (.error fault') t'

theorem Ensures.settled {x : TreeAction (Except IoFault Unit)} (ht : t.Linkless)
    (h : Ensures t path x) :
    ∃ result t', Yields x t result t' ∧ Settled path x result t' := by
  cases h with
  | present yields linkless isDirectory =>
    exact ⟨_, _, yields, linkless, fun _ => isDirectory, fun _ h => by cases h⟩
  | barred barred yields =>
    exact ⟨_, t, yields, ht, (fun h => by cases h), fun _ _ => ⟨_, yields⟩⟩

/-- If the directory right above cannot be made, nothing can be made below it. -/
theorem yields_ensureBelow_failing {fault : IoFault} (ht : t.Linkless)
    (ha : Path.Above path parent) (hc : checkPath parent = .ok ())
    (hy : Yields (fun _ => files.ensureBelow parent above) t (.error fault) t) : ∃ fault',
    Yields (fun _ => files.ensureBelow path (parent :: above)) t (.error fault') t := by
  have hparent : ¬ t.isDirectory parent = true := by
    intro hdir
    obtain ⟨hresult, -⟩ := (yields_ensureBelow hdir above).unique hy
    cases hresult
  obtain ⟨hmissing, hunmade⟩ := not_or.1 (mt (isDirectory_above ht ha hc) hparent)
  cases hm : (t.makeDirectory path).1 with
  | ok _ => exact absurd hm hunmade
  | error fault' =>
    have hbarred : t.Barred path fault' :=
      ⟨makeDirectory_error hm, (Bool.not_eq_true _).mp hmissing⟩
    exact hbarred.yields_ensureBelow hy

theorem settled_ensureBelow (ht : t.Linkless) (h : List.IsChain Path.Above (path :: above)) :
    ∃ result t', Yields (fun _ => files.ensureBelow path above) t result t' ∧
      Settled path (fun _ => files.ensureBelow path above) result t' := by
  -- on the paths above, the nearest first
  induction above generalizing t path with
  | nil => exact (ensures_ensureDirectory ht path).settled ht
  | cons parent above ih =>
    obtain ⟨habove, hchain⟩ := List.isChain_cons_cons.1 h
    rcases made_or_not ht path with ⟨t₁, hrun, ht₁, hdir⟩ | ⟨fault, hsame, hrun⟩
    · exact (Ensures.present (hrun.bind fun _ _ => rfl) ht₁ hdir).settled ht
    cases fault with
    | notFound =>
      obtain ⟨result, t₂, hy, hsettled⟩ := ih ht hchain
      cases result with
      | ok _ =>
        -- all above it is there now, so only the directory itself may be barred
        cases ensures_ensureDirectory hsettled.linkless path with
        | present yields linkless isDirectory =>
          exact (Ensures.present (hrun.bind (hy.bind yields)) linkless isDirectory).settled ht
        | barred barred yields =>
          have hagain := barred.yields_ensureBelow
            (yields_ensureBelow (hsettled.present rfl) above)
          exact ⟨_, t₂, hrun.bind (hy.bind yields), hsettled.linkless,
            (fun h => by cases h), fun _ _ => hagain⟩
      | error fault =>
        have hall : Yields (fun _ => files.ensureBelow path (parent :: above)) t
            (.error fault) t₂ := hrun.bind (hy.bind fun _ _ => rfl)
        refine ⟨.error fault, t₂, hall, hsettled.linkless, (fun h => by cases h), ?_⟩
        intro _ _
        cases hc : checkPath parent with
        | error fault' =>
          -- the tree is the one there was before, and so is the run
          obtain ⟨-, hsame⟩ :=
            (yields_ensureBelow_unchecked hc habove.nonempty t above).unique hy
          subst hsame
          exact ⟨fault, hall⟩
        | ok _ =>
          obtain ⟨_, hagain⟩ := hsettled.failing fault rfl
          exact yields_ensureBelow_failing hsettled.linkless habove hc hagain
    | _ => exact (ensures_of_settle ht hsame (hrun.bind (yields_settle t path _))).settled ht

/-- Making directories once leaves a tree in which they are there, or in which making them again
fails and adds nothing. -/
theorem settled_makeDirectories (ht : t.Linkless) (path : String) :
    ∃ result t', Yields (fun _ => files.makeDirectories path) t result t' ∧ t'.Linkless ∧
      (result = .ok () → ∃ location, t'.Leads path location) ∧
      ∀ fault, result = .error fault → ∃ fault',
        Yields (fun _ => files.makeDirectories path) t' (.error fault') t' := by
  unfold FileSystem.makeDirectories
  by_cases hempty : path = ""
  · subst hempty
    exact ⟨.ok (), t, fun _ _ => rfl, ht, fun _ => ⟨t.workingDirectory, rfl⟩, fun _ h => by cases h⟩
  · have hne : ¬ path.isEmpty = true := by simpa using hempty
    simp only [if_neg hne]
    obtain ⟨result, t', hy, hsettled⟩ := settled_ensureBelow ht (Path.isChain_ancestors path)
    refine ⟨result, t', hy, hsettled.linkless, ?_, hsettled.failing⟩
    intro hresult
    obtain ⟨location, hstatus⟩ := isDirectory_iff.1 (hsettled.present hresult)
    refine ⟨location, ?_⟩
    rw [Leads, if_neg hempty]
    exact hstatus

end FileTree

end Scaffold
