import Scaffold.Proofs.Containment
import Scaffold.Proofs.Remaking

/-!
Runs that are made a second time.

A second run finds its directory, or fails to make it, as the first one did. If nothing is to be
overwritten, whatever the first run has come to is in the way of the second one. If everything is,
each artifact ends as it did and its text takes the place of the same text. So the second run
changes nothing.
-/
namespace Scaffold

variable {σ : Type} {t t' t₁ t₂ t₃ t₄ : FileTree} {location : Location} {dir path text : String}
  {consent : Except Failure Bool} {attempt a₁ a₂ a₃ a₄ : Attempt} {r : Request} {params : Params}

open FileTree (checkName)

/-- Trees with the same entries everywhere. -/
structure FileTree.Same (t t' : FileTree) : Prop where
  entries : ∀ location, t'.entry? location = t.entry? location
  workingDirectory : t'.workingDirectory = t.workingDirectory

theorem FileTree.Same.refl (t : FileTree) : t.Same t := ⟨fun _ => rfl, rfl⟩

/-! ### Artifacts by their obstacles -/

/-- An artifact ends as its obstacle says, or is written. -/
theorem Deposits.attempt_eq (h : Deposits t location dir path text consent attempt t') :
    attempt = (obstacle? t location dir path consent).getD (.written text.utf8ByteSize) := by
  cases h with
  | hindered obstacle => rw [obstacle, Option.getD_some]
  | stored clear => rw [clear, Option.getD_none]

theorem Deposits.entry?_eq (h : Deposits t location dir path text consent attempt t')
    (l : Location) : t'.entry? l =
      if (obstacle? t location dir path consent).isNone ∧ l = location ++ [path] then
        some (.file text.toUTF8)
      else t.entry? l := by
  cases h with
  | hindered obstacle =>
    rw [obstacle, if_neg]
    simp
  | stored clear stored within =>
    rw [clear]
    by_cases hl : l = location ++ [path]
    · subst hl
      rw [stored, if_pos ⟨rfl, rfl⟩]
    · rw [if_neg fun h => hl h.2]
      exact within.elsewhere l fun h => hl (Option.some.inj h)

theorem Deposits.eq_of_obstacle? (h : Deposits t location dir path text consent attempt t')
    (ho : obstacle? t location dir path consent ≠ none) :
    t' = t ∧ attempt.status.isWritten = false := by
  cases h with
  | hindered obstacle => exact ⟨rfl, not_written_of_obstacle? obstacle⟩
  | stored clear => exact absurd clear ho

/-! ### Nothing is overwritten -/

/-- No artifact takes an entry away. -/
theorem Deposits.entry?_ne_none (h : Deposits t location dir path text consent attempt t')
    {l : Location} (he : t.entry? l ≠ none) : t'.entry? l ≠ none := by
  rw [h.entry?_eq l]
  split
  · simp
  · exact he

theorem Deposits.obstacle?_ne_none {path' : String}
    (h : Deposits t location dir path text (.ok false) attempt t')
    (ho : obstacle? t location dir path' (.ok false) ≠ none) :
    obstacle? t' location dir path' (.ok false) ≠ none := by
  cases hc : checkName dir path' with
  | error fault =>
    rw [obstacle?_refused hc]
    simp
  | ok _ =>
    rw [Ne, obstacle?_never_iff hc] at ho ⊢
    exact h.entry?_ne_none ho

/-- What an artifact has come to is in its own way. -/
theorem Deposits.obstacle?_ne_none_self
    (h : Deposits t location dir path text (.ok false) attempt t') :
    obstacle? t' location dir path (.ok false) ≠ none := by
  cases h with
  | hindered obstacle =>
    rw [obstacle]
    simp
  | stored clear stored =>
    cases hc : checkName dir path with
    | error fault =>
      rw [obstacle?_refused hc]
      simp
    | ok _ =>
      rw [Ne, obstacle?_never_iff hc, stored]
      simp

theorem Request.deposits_never (h₁ : r.Deposits .declaration t location dir (.ok false) a₁ t₁)
    (h₂ : r.Deposits .definition t₁ location dir (.ok false) a₂ t₂)
    (h₃ : r.Deposits .declaration t₂ location dir (.ok false) a₃ t₃)
    (h₄ : r.Deposits .definition t₃ location dir (.ok false) a₄ t₄) :
    t₄ = t₂ ∧ (r.report a₃ a₄).written = [] := by
  obtain ⟨rfl, hunwritten₃⟩ := h₃.eq_of_obstacle? (h₂.obstacle?_ne_none h₁.obstacle?_ne_none_self)
  obtain ⟨rfl, hunwritten₄⟩ := h₄.eq_of_obstacle? h₂.obstacle?_ne_none_self
  refine ⟨rfl, ?_⟩
  simp [Report.written, Request.report, hunwritten₃, hunwritten₄]

/-! ### Everything is overwritten -/

/-- A text that is stored is no obstacle, and neither was what it has replaced. -/
theorem Deposits.obstacle?_eq (h : Deposits t location dir path text (.ok true) attempt t')
    (path' : String) :
    obstacle? t' location dir path' (.ok true) = obstacle? t location dir path' (.ok true) := by
  cases h with
  | hindered => rfl
  | stored clear stored within =>
    by_cases hpath : path' = path
    · subst hpath
      rw [clear]
      cases hc : checkName dir path' with
      | error fault =>
        rw [obstacle?_refused hc] at clear
        cases clear
      | ok _ => exact obstacle?_admitted hc stored _
    · have hother : some (location ++ [path']) ≠ some (location ++ [path]) := by simpa using hpath
      rw [obstacle?, obstacle?, within.elsewhere _ hother]

theorem Request.deposits_always (h₁ : r.Deposits .declaration t location dir (.ok true) a₁ t₁)
    (h₂ : r.Deposits .definition t₁ location dir (.ok true) a₂ t₂)
    (h₃ : r.Deposits .declaration t₂ location dir (.ok true) a₃ t₃)
    (h₄ : r.Deposits .definition t₃ location dir (.ok true) a₄ t₄) :
    t₂.Same t₄ ∧ r.report a₃ a₄ = r.report a₁ a₂ := by
  -- the obstacles of the first run are those of the second one
  have hdecl := (h₂.obstacle?_eq (r.path .declaration)).trans (h₁.obstacle?_eq _)
  have hdef := (h₃.obstacle?_eq (r.path .definition)).trans (h₂.obstacle?_eq _)
  refine ⟨⟨?_, ?_⟩, ?_⟩
  · intro l
    have he₁ := h₁.entry?_eq l
    have he₂ := h₂.entry?_eq l
    have he₃ := h₃.entry?_eq l
    have he₄ := h₄.entry?_eq l
    rw [hdecl] at he₃
    rw [hdef] at he₄
    -- the text that was stored last at a place is the same both times
    by_cases hplace₂ : (obstacle? t₁ location dir (r.path .definition) (.ok true)).isNone ∧
        l = location ++ [r.path .definition]
    · rw [he₄, he₂, if_pos hplace₂, if_pos hplace₂]
    · by_cases hplace₁ : (obstacle? t location dir (r.path .declaration) (.ok true)).isNone ∧
          l = location ++ [r.path .declaration]
      · rw [he₄, he₂, if_neg hplace₂, if_neg hplace₂, he₃, he₁, if_pos hplace₁, if_pos hplace₁]
      · rw [he₄, if_neg hplace₂, he₃, if_neg hplace₁]
  · calc t₄.workingDirectory
      _ = t₃.workingDirectory := h₄.within.workingDirectory
      _ = t₂.workingDirectory := h₃.within.workingDirectory
  · have hsame₁ : a₃ = a₁ := by rw [h₃.attempt_eq, h₁.attempt_eq, hdecl]
    have hsame₂ : a₄ = a₂ := by rw [h₄.attempt_eq, h₂.attempt_eq, hdef]
    rw [hsame₁, hsame₂]

/-! ### Runs -/

/-- A policy settles the answers of a generation, whatever state comes along. -/
theorem Request.generate_ofPolicy (h : r.Accepted params) (ht : t.Linkless)
    (hl : t.Leads dir location) (policy : OverwritePolicy) (s : σ) : ∃ a₁ a₂ t₁ t₂,
      ((generate (FileTree.provider dir (Prompt.ofPolicy policy)) params).run t).run s =
        ((.ok (r.report a₁ a₂), t₂), s) ∧
      r.Deposits .declaration t location dir (.ok (policy == .always)) a₁ t₁ ∧
      r.Deposits .definition t₁ location dir (.ok (policy == .always)) a₂ t₂ := by
  obtain ⟨c₁, c₂, a₁, a₂, t₁, t₂, s₁, s₂, hrun, hconsents₁, hdeposits₁, hconsents₂, hdeposits₂⟩ :=
    Request.generate_deposits h ht hl (Prompt.ofPolicy policy) s
  obtain ⟨rfl, rfl⟩ := consents_ofPolicy hconsents₁
  obtain ⟨rfl, rfl⟩ := consents_ofPolicy hconsents₂
  exact ⟨a₁, a₂, t₁, t₂, hrun, hdeposits₁, hdeposits₂⟩

/-- What a second run comes to in the tree that the first one has left: it changes nothing there,
and it writes nothing or has the same report, according to the policy. -/
structure Repeats (policy : OverwritePolicy) (result₁ : Except Failure Report) (t₁ : FileTree)
    (result₂ : Except Failure Report) (t₂ : FileTree) : Prop where
  same : t₁.Same t₂
  never : policy = .never → ∀ report, result₂ = .ok report → report.written = []
  always : policy = .always → ∀ report, result₁ = .ok report → result₂ = .ok report

theorem repeats_error (policy : OverwritePolicy) (failure failure' : Failure) (t : FileTree) :
    Repeats policy (.error failure) t (.error failure') t :=
  ⟨.refl t, (fun _ _ h => by cases h), fun _ _ h => by cases h⟩

theorem Request.repeats_generate (h : r.Accepted params) (ht : t.Linkless)
    (hl : t.Leads dir location) (policy : OverwritePolicy) (s : σ) : ∃ report₁ t₁ report₂ t₂,
      ((generate (FileTree.provider dir (Prompt.ofPolicy policy)) params).run t).run s =
        ((.ok report₁, t₁), s) ∧ t₁.Leads dir location ∧
      ((generate (FileTree.provider dir (Prompt.ofPolicy policy)) params).run t₁).run s =
        ((.ok report₂, t₂), s) ∧
      Repeats policy (.ok report₁) t₁ (.ok report₂) t₂ := by
  obtain ⟨a₁, a₂, t₁, t₂, hrun, h₁, h₂⟩ := Request.generate_ofPolicy h ht hl policy s
  have ht₂ := h₂.linkless (h₁.linkless ht)
  have hl₂ := (hl.sustains h₁.sustains).sustains h₂.sustains
  obtain ⟨a₃, a₄, t₃, t₄, hagain, h₃, h₄⟩ := Request.generate_ofPolicy h ht₂ hl₂ policy s
  refine ⟨_, t₂, _, t₄, hrun, hl₂, hagain, ?_⟩
  cases policy with
  | never =>
    obtain ⟨rfl, hunwritten⟩ := Request.deposits_never h₁ h₂ h₃ h₄
    refine ⟨.refl _, ?_, fun h => by cases h⟩
    intro _ report hreport
    cases hreport
    exact hunwritten
  | always =>
    obtain ⟨hsame, hreport⟩ := Request.deposits_always h₁ h₂ h₃ h₄
    refine ⟨hsame, (fun h => by cases h), ?_⟩
    intro _ report hreport₁
    cases hreport₁
    rw [hreport]

/-- Making a directory and generating into it comes to the same if it is done twice, whether or not
the directory can be made, and whatever is in the way of the artifacts. -/
theorem run_idempotent (ht : t.Linkless) (dir : String) (policy : OverwritePolicy)
    (params : Params) (s : σ) : ∃ result₁ t₁ result₂ t₂,
      ((Commission.mk dir (Prompt.ofPolicy policy) params).run.run t).run s =
        ((result₁, t₁), s) ∧
      ((Commission.mk dir (Prompt.ofPolicy policy) params).run.run t₁).run s =
        ((result₂, t₂), s) ∧
      Repeats policy result₁ t₁ result₂ t₂ := by
  obtain ⟨created, made, hy, hmade, hleads, hfailing⟩ := FileTree.settled_makeDirectories ht dir
  cases created with
  | error fault =>
    obtain ⟨fault', hagain⟩ := hfailing fault rfl
    exact ⟨_, made, _, made, Commission.run_of_not_created hy s,
      Commission.run_of_not_created hagain s, repeats_error policy _ _ made⟩
  | ok _ =>
    obtain ⟨location, hl⟩ := hleads rfl
    rcases Job.accepted_or_rejected params with ⟨r, h⟩ | ⟨failure, h⟩
    · obtain ⟨report₁, t₁, report₂, t₂, hrun, hl₁, hagain, hrepeats⟩ :=
        Request.repeats_generate h hmade hl policy s
      exact ⟨_, t₁, _, t₂, Commission.run_of_created hy hrun,
        Commission.run_of_created (FileTree.yields_makeDirectories hl₁) hagain, hrepeats⟩
    · have hrejected : ((generate (FileTree.provider dir (Prompt.ofPolicy policy)) params).run
          made).run s = ((.error failure, made), s) := by
        rw [generate_rejected _ h]
        rfl
      exact ⟨_, made, _, made, Commission.run_of_created hy hrejected,
        Commission.run_of_created (FileTree.yields_makeDirectories hl) hrejected,
        repeats_error policy _ _ made⟩

/-- A path through a directory that is missing and back to one in which a directory has the name of
the declaration. -/
theorem run_idempotent_detour :
    let t : FileTree := ⟨[(["out"], .directory), (["out", "a_backend.h"], .directory),
      (["out", "a_backend.c"], .file "old".toUTF8)], []⟩
    let c : Commission Unit := ⟨"out/new/..", Prompt.ofPolicy .always,
      Request.asParams ⟨"a", true, ["B"], "h", "c"⟩⟩
    t.Linkless ∧ ∃ result₁ t₁ result₂ t₂, (c.run.run t).run () = ((result₁, t₁), ()) ∧
      (c.run.run t₁).run () = ((result₂, t₂), ()) ∧ Repeats .always result₁ t₁ result₂ t₂ := by
  intro t c
  have ht : t.Linkless := FileTree.linkless_of_entries (by simp [t])
  exact ⟨ht, run_idempotent ht "out/new/.." .always _ ()⟩

end Scaffold
