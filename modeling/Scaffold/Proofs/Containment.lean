import Scaffold.Proofs.Overwriting
import Scaffold.Proofs.Places

/-!
What a generation can change.

Each artifact has one place in its directory. Its text is stored there unless there is an obstacle,
and then the tree stays as it is. So in a tree without links, where no place stands for another one,
all other entries stay, however the two artifacts end.
-/
namespace Scaffold

variable {σ : Type} {t t' : FileTree} {location : Location} {dir path text : String}
  {consent : Except Failure Bool} {attempt : Attempt} {r : Request} {params : Params}

open FileTree (Within Sustains checkName)

/-! ### Obstacles -/

/-- How an artifact ends that is not stored: its path cannot be looked up, or there is an entry that
the prompt does not give up or that is no file. -/
def hindrance? (full : String) :
    Except IoFault Unit → Except Failure Bool → Option Entry → Option Attempt
  | .error fault, _, _ => some (.unavailable (.sinkUnavailable full fault))
  | .ok (), _, none => none
  | .ok (), .error failure, some _ => some (.unavailable failure)
  | .ok (), .ok false, some _ => some .declined
  | .ok (), .ok true, some (.file _) => none
  | .ok (), .ok true, some .directory => some (.unavailable (.sinkUnavailable full .isDirectory))
  | .ok (), .ok true, some (.link _) => some (.unavailable (.sinkUnavailable full .tooManyLinks))
  | .ok (), .ok true, some .fullDevice => some (.broken (.writeFailed full .noSpace))

/-- What keeps an artifact from its place in a directory, given what the prompt says of it. -/
def obstacle? (t : FileTree) (location : Location) (dir path : String)
    (consent : Except Failure Bool) : Option Attempt :=
  hindrance? (Path.join dir path) (checkName dir path) consent <| t.entry? (location ++ [path])

theorem obstacle?_refused {fault : IoFault} (hc : checkName dir path = .error fault)
    (t : FileTree) (location : Location) (consent : Except Failure Bool) :
    obstacle? t location dir path consent =
      some (.unavailable (.sinkUnavailable (Path.join dir path) fault)) := by
  rw [obstacle?, hc]
  rfl

theorem obstacle?_admitted (hc : checkName dir path = .ok ()) {e? : Option Entry}
    (he : t.entry? (location ++ [path]) = e?) (consent : Except Failure Bool) :
    obstacle? t location dir path consent =
      hindrance? (Path.join dir path) (.ok ()) consent e? := by rw [obstacle?, hc, he]

/-- Only files are given up. -/
theorem file_of_obstacle?_none {e : Entry} (h : obstacle? t location dir path consent = none)
    (he : t.entry? (location ++ [path]) = some e) : ∃ bytes, e = .file bytes := by
  cases hc : checkName dir path with
  | error fault =>
    rw [obstacle?_refused hc] at h
    cases h
  | ok _ =>
    rw [obstacle?_admitted hc he] at h
    cases e with
    | file bytes => exact ⟨bytes, rfl⟩
    | _ => rcases consent with failure | (_ | _) <;> cases h

/-- If the prompt gives up nothing, everything that is there is in the way. -/
theorem obstacle?_never_iff (hc : checkName dir path = .ok ()) :
    obstacle? t location dir path (.ok false) = none ↔ t.entry? (location ++ [path]) = none := by
  cases he : t.entry? (location ++ [path]) with
  | none =>
    rw [obstacle?_admitted hc he]
    exact iff_of_true rfl rfl
  | some e =>
    rw [obstacle?_admitted hc he]
    simp [hindrance?]

theorem not_written_of_obstacle? (h : obstacle? t location dir path consent = some attempt) :
    attempt.status.isWritten = false := by
  cases hc : checkName dir path with
  | error fault =>
    rw [obstacle?_refused hc] at h
    cases h
    rfl
  | ok _ =>
    rw [obstacle?_admitted hc rfl] at h
    cases he : t.entry? (location ++ [path]) with
    | none =>
      rw [he] at h
      cases h
    | some e =>
      rw [he] at h
      rcases consent with failure | (_ | _)
      · cases h
        rfl
      · cases h
        rfl
      · cases e <;> cases h <;> rfl

/-! ### One artifact -/

/-- What becomes of an artifact and of the tree. -/
inductive Deposits (t : FileTree) (location : Location) (dir path text : String)
    (consent : Except Failure Bool) : Attempt → FileTree → Prop where
  | hindered {attempt : Attempt}
      (obstacle : obstacle? t location dir path consent = some attempt) :
      Deposits t location dir path text consent attempt t
  | stored {t' : FileTree}
      (clear : obstacle? t location dir path consent = none)
      (stored : t'.entry? (location ++ [path]) = some (.file text.toUTF8))
      (within : Within (some (location ++ [path])) t t') :
      Deposits t location dir path text consent (.written text.utf8ByteSize) t'

/-- What a prompt answers, and a state after it: the one it has left, unless it was not asked. -/
def Consents (ask : Prompt σ) (full : String) (t : FileTree) (s : σ)
    (consent : Except Failure Bool) (s' : σ) : Prop :=
  ∃ s₁, (ask full t).run s = (consent, s₁) ∧ (s' = s ∨ s' = s₁)

theorem consents_ofPolicy {policy : OverwritePolicy} {full : String} {s s' : σ}
    (h : Consents (Prompt.ofPolicy policy) full t s consent s') :
    consent = .ok (policy == .always) ∧ s' = s := by
  obtain ⟨s₁, hanswer, hs⟩ := h
  cases hanswer
  exact ⟨rfl, hs.elim id id⟩

theorem Deposits.within (h : Deposits t location dir path text consent attempt t') :
    Within (some (location ++ [path])) t t' := by
  cases h with
  | hindered => exact .refl _ t
  | stored _ _ within => exact within

/-- A text takes the place of nothing but a file. -/
theorem Deposits.sustains (h : Deposits t location dir path text consent attempt t') :
    Sustains t t' := by
  cases h with
  | hindered => exact (FileTree.Extends.refl t).sustains
  | stored clear stored within =>
    refine ⟨?_, within.workingDirectory⟩
    intro l e hfile he
    by_cases hl : l = location ++ [path]
    · subst hl
      obtain ⟨bytes, rfl⟩ := file_of_obstacle?_none clear he
      exact absurd rfl (hfile bytes)
    · rw [within.elsewhere l fun h => hl (Option.some.inj h)]
      exact he

theorem Deposits.linkless (h : Deposits t location dir path text consent attempt t')
    (ht : t.Linkless) : t'.Linkless := by
  cases h with
  | hindered => exact ht
  | stored _ stored within =>
    intro l target he
    by_cases hl : l = location ++ [path]
    · subst hl
      rw [stored] at he
      cases he
    · rw [within.elsewhere l fun h => hl (Option.some.inj h)] at he
      exact ht l target he

section Attempt

variable {a : Assignment} {fs : List String} {ask : Prompt σ} {s s' : σ}

/-- An attempt that is let have what is there empties a file and stores its text, and comes to
nothing at any other entry. -/
theorem deposits_agreed (hf : a.body.fragments a.params = .ok fs) (htext : String.join fs ≠ "")
    (hl : t.Leads dir location) (hn : Path.Plain a.path) (hc : checkName dir a.path = .ok ())
    {e : Entry} (he : t.entry? (location ++ [a.path]) = some e)
    (hlink : ∀ target, e ≠ .link target)
    (hask : (ask (Path.join dir a.path) t).run s = (.ok true, s')) : ∃ attempt t',
      ((a.attempt (FileTree.provider dir ask)).run t).run s = ((attempt, t'), s') ∧
      Deposits t location dir a.path (String.join fs) (.ok true) attempt t' := by
  have hobstacle := obstacle?_admitted hc he (.ok true)
  have hcreate := FileTree.createNew_taken hl hn hc he
  have htarget := FileTree.target_taken hl hn hc he hlink
  have hopening {file : Except IoFault FileHandle} {t₁ : FileTree}
      (h : t.createEmpty (Path.join dir a.path) = (file, t₁)) :=
    FileTree.run_openSink_asked hcreate hask (FileTree.yields_consented h)
  -- as the file is opened, so the attempt ends
  cases e with
  | file bytes =>
    have ho := hopening (by rw [FileTree.createEmpty, htarget])
    obtain ⟨t', hrun, hstored, hwithin⟩ := FileTree.run_attempt_placed hf (by simp) ho
    exact ⟨_, t', hrun, .stored hobstacle hstored hwithin⟩
  | directory =>
    have ho := hopening (by rw [FileTree.createEmpty, htarget])
    exact ⟨_, t, run_run_bind ho, .hindered hobstacle⟩
  | link target => exact absurd rfl (hlink target)
  | fullDevice =>
    have ho := hopening (by rw [FileTree.createEmpty, htarget])
    exact ⟨_, t, FileTree.run_attempt_full hf htext ho, .hindered hobstacle⟩

/-- No link may be given up, as it would be followed to another place. -/
theorem deposits_attempt (hf : a.body.fragments a.params = .ok fs) (htext : String.join fs ≠ "")
    (hl : t.Leads dir location) (hn : Path.Plain a.path) (ask : Prompt σ) (s : σ)
    (hlink : ((ask (Path.join dir a.path) t).run s).1 = .ok true →
      ∀ target, t.entry? (location ++ [a.path]) ≠ some (.link target)) :
    ∃ consent attempt t' s',
      ((a.attempt (FileTree.provider dir ask)).run t).run s = ((attempt, t'), s') ∧
      Consents ask (Path.join dir a.path) t s consent s' ∧
      Deposits t location dir a.path (String.join fs) consent attempt t' := by
  rcases hask : (ask (Path.join dir a.path) t).run s with ⟨consent, s₁⟩
  have hunasked : Consents ask (Path.join dir a.path) t s consent s := ⟨s₁, hask, Or.inl rfl⟩
  have hasked : Consents ask (Path.join dir a.path) t s consent s₁ := ⟨s₁, hask, Or.inr rfl⟩
  cases hc : checkName dir a.path with
  | error fault =>
    have hne : (.error fault : Except IoFault FileHandle) ≠ .error .alreadyExists := by
      intro h
      cases h
      exact FileTree.checkName_ne_alreadyExists dir a.path hc
    have ho := FileTree.run_openSink_unasked (FileTree.createNew_refused hl hn hc) hne ask s
    have hobstacle := obstacle?_refused hc t location consent
    exact ⟨consent, _, t, s, run_run_bind ho, hunasked, .hindered hobstacle⟩
  | ok _ =>
    cases he : t.entry? (location ++ [a.path]) with
    | none =>
      have ho := FileTree.run_openSink_unasked (FileTree.createNew_free hl hn hc he) (by simp) ask s
      obtain ⟨t', hrun, hstored, hwithin⟩ := FileTree.run_attempt_placed hf (by simp) ho
      have hclear := obstacle?_admitted hc he consent
      exact ⟨consent, _, t', s, hrun, hunasked, .stored hclear hstored hwithin⟩
    | some e =>
      -- only now is the prompt asked
      have hobstacle := obstacle?_admitted hc he consent
      have hcreate := FileTree.createNew_taken hl hn hc he
      rcases consent with failure | (_ | _)
      · have ho := FileTree.run_openSink_asked hcreate hask fun _ _ => rfl
        exact ⟨_, _, t, s₁, run_run_bind ho, hasked, .hindered hobstacle⟩
      · have ho := FileTree.run_openSink_asked hcreate hask fun _ _ => rfl
        exact ⟨_, _, t, s₁, run_run_bind ho, hasked, .hindered hobstacle⟩
      · have hnolink (target : String) : e ≠ .link target := by
          intro h
          subst h
          rw [hask] at hlink
          exact hlink rfl target he
        obtain ⟨attempt, t', hrun, hdeposits⟩ := deposits_agreed hf htext hl hn hc he hnolink hask
        exact ⟨_, attempt, t', s₁, hrun, hasked, hdeposits⟩

end Attempt

/-! ### A generation -/

namespace Request

/-- What becomes of the artifact of a kind. -/
abbrev Deposits (r : Request) (kind : ArtifactKind) (t : FileTree) (location : Location)
    (dir : String) : Except Failure Bool → Attempt → FileTree → Prop :=
  Scaffold.Deposits t location dir (r.path kind) (r.text kind)

theorem generate_deposits (h : r.Accepted params) (ht : t.Linkless) (hl : t.Leads dir location)
    (ask : Prompt σ) (s : σ) : ∃ c₁ c₂ a₁ a₂ t₁ t₂ s₁ s₂,
      ((generate (FileTree.provider dir ask) params).run t).run s =
        ((.ok (r.report a₁ a₂), t₂), s₂) ∧
      Consents ask (Path.join dir (r.path .declaration)) t s c₁ s₁ ∧
      r.Deposits .declaration t location dir c₁ a₁ t₁ ∧
      Consents ask (Path.join dir (r.path .definition)) t₁ s₁ c₂ s₂ ∧
      r.Deposits .definition t₁ location dir c₂ a₂ t₂ := by
  obtain ⟨c₁, a₁, t₁, s₁, hrun₁, hconsents₁, hdeposits₁⟩ := deposits_attempt
    (a := r.assignment .declaration) (r.fragments_derived .declaration)
    (r.text_nonempty .declaration) hl (h.plain_path .declaration) ask s fun _ => ht _
  -- the declaration leaves a tree of the same kind, in which the directory is where it was
  have ht₁ := hdeposits₁.linkless ht
  have hl₁ := hl.sustains hdeposits₁.sustains
  obtain ⟨c₂, a₂, t₂, s₂, hrun₂, hconsents₂, hdeposits₂⟩ := deposits_attempt
    (a := r.assignment .definition) (r.fragments_derived .definition)
    (r.text_nonempty .definition) hl₁ (h.plain_path .definition) ask s₁ fun _ => ht₁ _
  exact ⟨c₁, c₂, a₁, a₂, t₁, t₂, s₁, s₂, generate_run_run h hrun₁ hrun₂, hconsents₁, hdeposits₁,
    hconsents₂, hdeposits₂⟩

end Request

/-- A path that is a single name, without separators of any kind. -/
structure Path.Single (path : String) : Prop where
  components : Path.components path = [.normal path]
  noSeparator : ∀ c ∈ path.toList, Request.isSeparator c = false
  notCurrent : path ≠ "."
  notParent : path ≠ ".."

theorem Request.Accepted.single_path (h : r.Accepted params) (kind : ArtifactKind) :
    Path.Single (r.path kind) where
  components := (h.plain_path kind).components_eq
  noSeparator := h.isSeparator_path kind
  notCurrent := (h.plain_path kind).notCurrent
  notParent := (h.plain_path kind).notParent

/-- The artifacts of a request that breaks no rule have single names, and in a tree without links a
generation changes nothing but the entries of these names in its directory. This holds whatever the
prompt answers, and also if the directory is made before, as it is there. -/
theorem generate_contained (h : r.Accepted params) :
    (∀ kind : ArtifactKind,
      kind.descriptor.path r.asParams = .ok (r.name ++ "_backend." ++ r.extension kind) ∧
      Path.Single (r.name ++ "_backend." ++ r.extension kind)) ∧
    ∀ (σ : Type) (t : FileTree) (dir : String) (location : Location) (ask : Prompt σ) (s : σ),
      t.Linkless → t.Leads dir location → ∃ report t' s',
        ((generate (FileTree.provider dir ask) params).run t).run s = ((.ok report, t'), s') ∧
        ((Commission.mk dir ask params).run.run t).run s = ((.ok report, t'), s') ∧
        t'.workingDirectory = t.workingDirectory ∧
        ∀ l, (∀ kind, l ≠ location ++ [r.name ++ "_backend." ++ r.extension kind]) →
          t'.entry? l = t.entry? l := by
  refine ⟨?_, ?_⟩
  · intro kind
    exact ⟨r.render_path kind, h.single_path kind⟩
  · intro σ t dir location ask s ht hl
    obtain ⟨c₁, c₂, a₁, a₂, t₁, t₂, s₁, s₂, hrun, -, hdeposits₁, -, hdeposits₂⟩ :=
      Request.generate_deposits h ht hl ask s
    have hwithin₁ := hdeposits₁.within
    have hwithin₂ := hdeposits₂.within
    refine ⟨_, t₂, s₂, hrun, Commission.run_of_created (FileTree.yields_makeDirectories hl) hrun,
      hwithin₂.workingDirectory.trans hwithin₁.workingDirectory, ?_⟩
    intro l hplaces
    have hdecl : some l ≠ some (location ++ [r.path .declaration]) := by
      intro hplace
      exact hplaces .declaration (Option.some.inj hplace)
    have hdef : some l ≠ some (location ++ [r.path .definition]) := by
      intro hplace
      exact hplaces .definition (Option.some.inj hplace)
    calc t₂.entry? l
      _ = t₁.entry? l := hwithin₂.elsewhere l hdef
      _ = t.entry? l := hwithin₁.elsewhere l hdecl

/-- A name of two dots. The prompt gives up the device in the declaration's place, but not the file in
the definition's. -/
theorem generate_contained_dots :
    let r : Request := ⟨"..", true, ["B"], "h", "c"⟩
    let kept : Entry := .file "kept".toUTF8
    let t : FileTree := ⟨[(["out"], .directory), (["out", ".._backend.c"], .file .empty),
      (["out", ".._backend.h"], .fullDevice), (["out", "kept"], kept)], []⟩
    let ask : Prompt Nat := fun path _ asked => (.ok (path = "out/.._backend.h"), asked + 1)
    r.Accepted r.asParams ∧ t.Linkless ∧ t.Leads "out" ["out"] ∧ ∃ report t' asked,
      ((Commission.mk "out" ask r.asParams).run.run t).run 0 = ((.ok report, t'), asked) ∧
      t'.entry? ["out", "kept"] = some kept ∧ t'.entry? [".._backend.h"] = none := by
  intro r kept t ask
  have hv : (⟨"..", true, ["B"], "h", "c"⟩ : Request).validate = .ok () := rfl
  have h : r.Accepted r.asParams := Request.accepted_asParams hv
  have ht : t.Linkless := FileTree.linkless_of_entries (by simp [t, kept])
  have hl : t.Leads "out" ["out"] := by
    have hsought : FileTree.Sought ⟨true, false⟩ "out" [] :=
      ⟨by decide, by decide, by decide, by simp⟩
    rw [FileTree.Leads, if_neg (by decide), FileTree.status_eq_ok_iff_follows]
    exact ⟨rfl, .into hsought rfl (.stop _ _)⟩
  obtain ⟨-, hruns⟩ := generate_contained h
  obtain ⟨report, t', asked, -, hrun, -, hkept⟩ := hruns Nat t "out" ["out"] ask 0 ht hl
  have hother (l : Location) (hlast : l.getLast? = some "kept" ∨ l.length = 1)
      (kind : ArtifactKind) : l ≠ ["out"] ++ [r.name ++ "_backend." ++ r.extension kind] := by
    intro h
    rw [h] at hlast
    cases kind <;> simp [r, Request.extension] at hlast
  exact ⟨h, ht, hl, report, t', asked, hrun, hkept _ (hother _ (Or.inl rfl)),
    hkept _ (hother _ (Or.inr rfl))⟩

end Scaffold
