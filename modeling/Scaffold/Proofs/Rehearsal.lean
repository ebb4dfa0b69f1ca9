import Scaffold.Proofs.Containment

/-!
A generation in memory as the rehearsal of one into an empty directory.

What is generated into memory is always written. Into a directory it is written as long as the path
of the artifact fits and nothing is there, and then the directory mirrors the store. So the two come
to the same just if both paths fit and the artifacts have different names.
-/
namespace Scaffold

variable {σ : Type} {t t' : FileTree} {location : Location} {dir name path text : String}

open FileTree (Within Extends)

/-- A store is mirrored by what is below a location: each artifact is a file there that has its path
for a name, and nothing else is there. -/
def MemoryStore.MirroredBy (store : MemoryStore) (t : FileTree) (location : Location) : Prop :=
  ∀ way, way ≠ [] → ∀ e, t.entry? (location ++ way) = some e ↔
    ∃ path text, (path, text) ∈ store.artifacts ∧ way = [path] ∧ e = .file text.toUTF8

/-- A path leads to a directory in which there is nothing. -/
structure FileTree.EmptyDirectory (t : FileTree) (dir : String) (location : Location) : Prop where
  leads : t.Leads dir location
  empty : ∀ way, way ≠ [] → t.entry? (location ++ way) = none

/-- The path of an artifact in a directory is not too long to be looked up. -/
def Fits (dir path : String) : Prop := (Path.join dir path).utf8ByteSize ≤ FileTree.longestPath

/-- A name that a file can have. -/
structure Fileable (name : String) : Prop where
  plain : Path.Plain name
  noNul : '\x00' ∉ name.toList
  short : name.utf8ByteSize ≤ FileTree.longestName

/-- A joined path is as long as its parts, if not longer. -/
theorem Path.utf8ByteSize_join (hn : Path.Plain name) (dir : String) :
    dir.utf8ByteSize + name.utf8ByteSize ≤ (Path.join dir name).utf8ByteSize := by
  rw [join, hn.not_absolute, Bool.false_or]
  split
  · next hempty =>
    have hdir : dir = "" := by simpa using hempty
    subst hdir
    exact Nat.le_of_eq (Nat.zero_add _)
  · split
    · exact Nat.le_of_eq String.utf8ByteSize_append.symm
    · rw [String.utf8ByteSize_append, String.utf8ByteSize_append]
      omega

namespace FileTree

theorem checkName_of_fits (hl : t.Leads dir location) (hn : Fileable name) (hfits : Fits dir name) :
    checkName dir name = .ok () := by
  rw [checkName, checkPath_join hl hn.plain hn.noNul, if_neg (Nat.not_lt.2 hfits)]
  exact if_neg (Nat.not_lt.2 hn.short)

theorem checkName_of_not_fits (hl : t.Leads dir location) (hn : Fileable name)
    (hfits : ¬ Fits dir name) : checkName dir name = .error .nameTooLong := by
  rw [checkName, checkPath_join hl hn.plain hn.noNul, if_pos (Nat.lt_of_not_le hfits)]
  rfl

end FileTree

/-- How an artifact ends that must not replace anything. -/
inductive Lands (t : FileTree) (location : Location) (dir path text : String) :
    Attempt → FileTree → Prop where
  | written {t' : FileTree} (fits : Fits dir path)
      (free : t.entry? (location ++ [path]) = none)
      (stored : t'.entry? (location ++ [path]) = some (.file text.toUTF8))
      (within : Within (some (location ++ [path])) t t') :
      Lands t location dir path text (.written text.utf8ByteSize) t'
  | spared {a : Attempt} (unwritten : a.status.isWritten = false)
      (hindered : ¬ (Fits dir path ∧ t.entry? (location ++ [path]) = none)) :
      Lands t location dir path text a t

/-- If nothing is to be replaced, an artifact has no obstacle just if its path fits and nothing is
there. -/
theorem unhindered_iff (hl : t.Leads dir location) (hn : Fileable path) :
    obstacle? t location dir path (.ok false) = none ↔
      Fits dir path ∧ t.entry? (location ++ [path]) = none := by
  by_cases hfits : Fits dir path
  · rw [obstacle?_never_iff (FileTree.checkName_of_fits hl hn hfits)]
    exact ⟨fun hfree => ⟨hfits, hfree⟩, And.right⟩
  · rw [obstacle?_refused (FileTree.checkName_of_not_fits hl hn hfits)]
    simp [hfits]

theorem lands_attempt {a : Assignment} {fs : List String}
    (hf : a.body.fragments a.params = .ok fs) (htext : String.join fs ≠ "")
    (hl : t.Leads dir location) (hn : Fileable a.path) (s : σ) : ∃ attempt t',
      ((a.attempt (FileTree.provider dir (Prompt.ofPolicy .never))).run t).run s =
        ((attempt, t'), s) ∧ Lands t location dir a.path (String.join fs) attempt t' := by
  obtain ⟨consent, attempt, t', s', hrun, hconsents, hdeposits⟩ :=
    deposits_attempt hf htext hl hn.plain (Prompt.ofPolicy .never) s (fun h => by cases h)
  obtain ⟨hanswer, rfl⟩ := consents_ofPolicy hconsents
  have hrefused : consent = .ok false := hanswer
  subst hrefused
  have hclear := unhindered_iff (t := t) hl hn
  refine ⟨attempt, t', hrun, ?_⟩
  cases hdeposits with
  | hindered obstacle =>
    apply Lands.spared (not_written_of_obstacle? obstacle)
    intro h
    rw [hclear.2 h] at obstacle
    cases obstacle
  | stored clear stored within =>
    obtain ⟨fits, free⟩ := hclear.1 clear
    exact .written fits free stored within

theorem Lands.extends {a : Attempt} (h : Lands t location dir path text a t') : Extends t t' := by
  cases h with
  | written _ free _ within => exact within.extends_of_free free
  | spared => exact .refl t

theorem Lands.isWritten_iff {a : Attempt} (h : Lands t location dir path text a t') :
    a.status.isWritten = true ↔ Fits dir path ∧ t.entry? (location ++ [path]) = none := by
  cases h with
  | written fits free _ _ => exact iff_of_true rfl ⟨fits, free⟩
  | spared unwritten hindered => exact iff_of_false (by simp [unwritten]) hindered

theorem Lands.of_isWritten {a : Attempt} (h : Lands t location dir path text a t')
    (hw : a.status.isWritten = true) : a = .written text.utf8ByteSize ∧
      t'.entry? (location ++ [path]) = some (.file text.toUTF8) ∧
      Within (some (location ++ [path])) t t' := by
  cases h with
  | written _ _ stored within => exact ⟨rfl, stored, within⟩
  | spared unwritten =>
    rw [unwritten] at hw
    cases hw

/-! ### Mirrored stores -/

namespace MemoryStore

variable {store : MemoryStore}

theorem mirroredBy_empty (h : ∀ way, way ≠ [] → t.entry? (location ++ way) = none) :
    MemoryStore.empty.MirroredBy t location := by
  intro way hway e
  rw [h way hway]
  constructor
  · intro h
    cases h
  · rintro ⟨_, _, hmem, -⟩
    cases hmem

/-- A new artifact and its file leave store and directory mirrored. -/
theorem MirroredBy.release (hm : store.MirroredBy t location)
    (hnew : ∀ e ∈ store.artifacts, Path.order path e.1 ≠ .eq)
    (hstored : t'.entry? (location ++ [path]) = some (.file text.toUTF8))
    (hin : Within (some (location ++ [path])) t t') :
    (store.release ⟨path, text⟩).MirroredBy t' location := by
  have hmem {e : String × String} : e ∈ (store.release ⟨path, text⟩).artifacts ↔
      e = (path, text) ∨ e ∈ store.artifacts := Table.mem_insert_of_new hnew
  intro way hway e
  by_cases hpath : way = [path]
  · subst hpath
    rw [hstored]
    constructor
    · intro h
      cases h
      exact ⟨path, text, hmem.2 (Or.inl rfl), rfl, rfl⟩
    · rintro ⟨p, x, hp, hway, rfl⟩
      cases hway
      rcases hmem.1 hp with h | h
      · cases h
        rfl
      · have hrefl : Path.order path path = .eq := Std.ReflCmp.compare_self
        exact absurd hrefl (hnew (path, x) h)
  · have hother : some (location ++ way) ≠ some (location ++ [path]) := fun h =>
      hpath (List.append_cancel_left (Option.some.inj h))
    rw [hin.elsewhere _ hother, hm way hway e]
    constructor
    · rintro ⟨p, x, hp, hrest⟩
      exact ⟨p, x, hmem.2 (Or.inr hp), hrest⟩
    · rintro ⟨p, x, hp, hway, he⟩
      rcases hmem.1 hp with h | h
      · cases h
        exact absurd hway hpath
      · exact ⟨p, x, h, hway, he⟩

end MemoryStore

/-! ### The two generations -/

namespace Request

variable {r : Request} {params : Params}

/-- The store after a generation into an empty one. -/
def store (r : Request) : MemoryStore :=
  (MemoryStore.empty.release ⟨r.path .declaration, r.text .declaration⟩).release
    ⟨r.path .definition, r.text .definition⟩

/-- The report if both artifacts are written. -/
def completeReport (r : Request) : Report :=
  r.report (.written (r.text .declaration).utf8ByteSize) (.written (r.text .definition).utf8ByteSize)

theorem generate_memory (h : r.Accepted params) :
    (generate MemoryStore.provider params).run .empty = (.ok r.completeReport, r.store) := by
  have hopen₁ : MemoryStore.empty.openSink (r.path .declaration) =
    .opened ⟨r.path .declaration, ""⟩ := rfl
  have hopen₂ : MemoryStore.openSink
      (MemoryStore.empty.release ⟨r.path .declaration, r.text .declaration⟩)
      (r.path .definition) = .opened ⟨r.path .definition, ""⟩ := rfl
  have hrun₁ := MemoryStore.run_attempt_opened (a := r.assignment .declaration)
    (r.fragments_derived .declaration) hopen₁
  have hrun₂ := MemoryStore.run_attempt_opened (a := r.assignment .definition)
    (r.fragments_derived .definition) hopen₂
  exact generate_run h hrun₁ hrun₂

theorem generate_directory (h : r.Accepted params) (hn : ∀ kind, Fileable (r.path kind))
    (hl : t.Leads dir location) (s : σ) : ∃ a₁ a₂ t₁ t₂,
      ((Commission.mk dir (Prompt.ofPolicy .never) params).run.run t).run s =
        ((.ok (r.report a₁ a₂), t₂), s) ∧
      Lands t location dir (r.path .declaration) (r.text .declaration) a₁ t₁ ∧
      Lands t₁ location dir (r.path .definition) (r.text .definition) a₂ t₂ := by
  obtain ⟨a₁, t₁, hrun₁, hlands₁⟩ := lands_attempt (a := r.assignment .declaration)
    (r.fragments_derived .declaration) (r.text_nonempty .declaration) hl (hn .declaration) s
  obtain ⟨a₂, t₂, hrun₂, hlands₂⟩ := lands_attempt (a := r.assignment .definition)
    (r.fragments_derived .definition) (r.text_nonempty .definition)
    (hl.sustains hlands₁.extends.sustains) (hn .definition) s
  exact ⟨a₁, a₂, t₁, t₂, Commission.run_of_created (FileTree.yields_makeDirectories hl)
    (generate_run_run h hrun₁ hrun₂), hlands₁, hlands₂⟩

theorem Accepted.fileable (h : r.Accepted params)
    (hnul : ∀ kind, '\x00' ∉ (r.path kind).toList)
    (hshort : ∀ kind, (r.path kind).utf8ByteSize ≤ FileTree.longestName) (kind : ArtifactKind) :
    Fileable (r.path kind) := ⟨h.plain_path kind, hnul kind, hshort kind⟩

/-- Only two artifacts that are both written make a complete report. -/
theorem isWritten_of_report_eq {a₁ a₂ : Attempt} (h : r.report a₁ a₂ = r.completeReport) :
    a₁.status.isWritten = true ∧ a₂.status.isWritten = true := by
  have hcomplete : (r.report a₁ a₂).isComplete = true := by
    rw [h, completeReport, isComplete_report]
    rfl
  rwa [isComplete_report, Bool.and_eq_true] at hcomplete

/-- What is not written because its path does not fit is missing from the report. -/
theorem incomplete_of_not_fits (h : r.Accepted params) (hn : ∀ kind, Fileable (r.path kind))
    (ht : t.EmptyDirectory dir location) (hfits : ¬ Fits dir (r.path .declaration)) (s : σ) :
    ∃ result t',
      ((Commission.mk dir (Prompt.ofPolicy .never) params).run.run t).run s = ((result, t'), s) ∧
      result ≠ .ok r.completeReport := by
  obtain ⟨a₁, a₂, t₁, t₂, hrun, hlands₁, -⟩ := generate_directory h hn ht.leads s
  refine ⟨_, t₂, hrun, fun hreport => ?_⟩
  obtain ⟨hw, -⟩ := isWritten_of_report_eq (Except.ok.inj hreport)
  exact hfits (hlands₁.isWritten_iff.1 hw).1

end Request

/-- A generation into memory and one into an empty directory, in which nothing is to be overwritten,
have the same report and leave the same artifacts just if the extensions differ and the paths of both
artifacts fit. -/
theorem rehearsal_iff {r : Request} {params : Params} (h : r.Accepted params)
    (hnul : ∀ kind, '\x00' ∉ (r.path kind).toList)
    (hshort : ∀ kind, (r.path kind).utf8ByteSize ≤ FileTree.longestName)
    (ht : t.EmptyDirectory dir location) (s : σ) :
    ∃ report store result t',
      (generate MemoryStore.provider params).run .empty = (.ok report, store) ∧
      ((Commission.mk dir (Prompt.ofPolicy .never) params).run.run t).run s = ((result, t'), s) ∧
      (result = .ok report ∧ store.MirroredBy t' location ↔
        r.declarationExt ≠ r.definitionExt ∧ ∀ kind, Fits dir (r.path kind)) := by
  have hn := h.fileable hnul hshort
  obtain ⟨a₁, a₂, t₁, t₂, hrun, hlands₁, hlands₂⟩ := Request.generate_directory h hn ht.leads s
  refine ⟨_, _, _, t₂, Request.generate_memory h, hrun, ?_⟩
  have hfree₁ := ht.empty [r.path .declaration] (by simp)
  constructor
  · rintro ⟨hreport, -⟩
    obtain ⟨hw₁, hw₂⟩ := Request.isWritten_of_report_eq (Except.ok.inj hreport)
    obtain ⟨-, stored₁, -⟩ := hlands₁.of_isWritten hw₁
    obtain ⟨fits₁, -⟩ := hlands₁.isWritten_iff.1 hw₁
    obtain ⟨fits₂, hfree₂⟩ := hlands₂.isWritten_iff.1 hw₂
    refine ⟨fun hext => ?_, fun kind => ?_⟩
    · -- the definition would have found the declaration in its place
      rw [← Request.path_eq_iff.2 hext, stored₁] at hfree₂
      cases hfree₂
    · cases kind with
      | declaration => exact fits₁
      | definition => exact fits₂
  · rintro ⟨hext, hfits⟩
    have hpath : r.path .definition ≠ r.path .declaration := fun hp =>
      hext (Request.path_eq_iff.1 hp.symm)
    have hw₁ := hlands₁.isWritten_iff.2 ⟨hfits .declaration, hfree₁⟩
    obtain ⟨rfl, stored₁, within₁⟩ := hlands₁.of_isWritten hw₁
    have hfree₂ : t₁.entry? (location ++ [r.path .definition]) = none := by
      have hother : some (location ++ [r.path .definition]) ≠
          some (location ++ [r.path .declaration]) := by simpa using hpath
      rw [within₁.elsewhere _ hother]
      exact ht.empty _ (by simp)
    have hw₂ := hlands₂.isWritten_iff.2 ⟨hfits .definition, hfree₂⟩
    obtain ⟨rfl, stored₂, within₂⟩ := hlands₂.of_isWritten hw₂
    have hnew : ∀ e ∈ (MemoryStore.empty.release
        ⟨r.path .declaration, r.text .declaration⟩).artifacts,
        Path.order (r.path .definition) e.1 ≠ .eq := by
      intro e he
      cases List.mem_singleton.1 he
      exact mt ((hn .definition).plain.order_eq_iff (hn .declaration).plain).1 hpath
    have hmirrored := (MemoryStore.mirroredBy_empty ht.empty).release (List.forall_mem_nil _)
      stored₁ within₁
    exact ⟨rfl, hmirrored.release hnew stored₂ within₂⟩

/-! ### Slashes at the end of a directory -/

namespace FileTree

/-- A path with slashes after it, which lead nowhere else but count. -/
def slashed (path : String) : Nat → String
  | 0 => path
  | n + 1 => slashed path n ++ "/"

theorem names_slashed (path : String) (n : Nat) : names (slashed path n) = names path := by
  induction n with
  | zero => rfl
  | succ n ih => rw [slashed, names_slash, ih]

theorem utf8ByteSize_slashed (path : String) (n : Nat) :
    (slashed path n).utf8ByteSize = path.utf8ByteSize + n := by
  induction n with
  | zero => rfl
  | succ n ih =>
    have hslash : "/".utf8ByteSize = 1 := rfl
    rw [slashed, String.utf8ByteSize_append, ih, hslash, Nat.add_assoc]

theorem toList_slashed (path : String) (n : Nat) :
    (slashed path n).toList = path.toList ++ List.replicate n '/' := by
  induction n with
  | zero => simp [slashed]
  | succ n ih =>
    rw [slashed, String.toList_append, ih, List.append_assoc, List.replicate_succ']
    rfl

theorem checkPath_slashed {n : Nat} (hnul : '\x00' ∉ path.toList) (hempty : path ≠ "")
    (hshort : path.utf8ByteSize + n ≤ longestPath) : checkPath (slashed path n) = .ok () := by
  have hsize := utf8ByteSize_slashed path n
  have hcontains : ¬ (slashed path n).toList.contains '\x00' = true := by
    simp [toList_slashed, hnul]
  have hisEmpty : ¬ (slashed path n).isEmpty = true := by
    rw [String.isEmpty_iff, ← String.toList_eq_nil_iff, toList_slashed]
    simp [hempty]
  rw [checkPath, if_neg hcontains, if_neg hisEmpty, if_neg (by omega)]

/-- A tree in which there is nothing but a directory. -/
def outTree : FileTree := ⟨[(["out"], .directory)], []⟩

theorem entry?_outTree (way : List String) (hway : way ≠ []) :
    outTree.entry? (["out"] ++ way) = none := by
  have hcmp : compare (["out"] ++ way) ["out"] ≠ .eq := by
    rw [Ne, Std.compare_eq_iff_eq]
    simpa using hway
  unfold entry?
  rw [if_neg (by simp), outTree, Table.find?, if_neg hcmp, Table.find?]

theorem follows_outTree (n : Nat) : outTree.Follows ⟨true, false⟩ mostLinks []
    (steps (slashed "out" n)) (.taken ["out"] .directory) := by
  have hsought (way : List String) : Sought ⟨true, false⟩ "out" way :=
    ⟨by decide, by decide, by decide, by simp⟩
  have hnames : names (slashed "out" n) = ["out"] := names_slashed "out" n
  rw [steps, hnames]
  split
  · exact .into (hsought _) rfl (.skip (Or.inl rfl) (.stop _ _))
  · exact .into (hsought _) rfl (.stop _ _)

theorem emptyDirectory_outTree {n : Nat} (hn : n ≤ 4092) :
    outTree.EmptyDirectory (slashed "out" n) ["out"] where
  leads := by
    have hempty : slashed "out" n ≠ "" := by
      rw [Ne, ← String.toList_eq_nil_iff, toList_slashed]
      simp
    have hsize : "out".utf8ByteSize = 3 := rfl
    have hshort : "out".utf8ByteSize + n ≤ longestPath := by
      rw [hsize, longestPath]
      omega
    have hcheck := checkPath_slashed (by decide) (by decide) hshort
    have horigin : origin outTree.workingDirectory (slashed "out" n) = [] := by
      rw [origin]
      split <;> rfl
    rw [Leads, if_neg hempty, status_eq_ok_iff_follows, horigin]
    exact ⟨hcheck, follows_outTree n⟩
  empty := entry?_outTree

end FileTree

/-- A directory without slashes after it. -/
theorem rehearsal_iff_out :
    let r : Request := ⟨"a", true, ["B"], "h", "c"⟩
    r.Accepted r.asParams ∧ (∀ kind, '\x00' ∉ (r.path kind).toList) ∧
      (∀ kind, (r.path kind).utf8ByteSize ≤ FileTree.longestName) ∧
      FileTree.outTree.EmptyDirectory (FileTree.slashed "out" 0) ["out"] ∧
      ∃ report store result t',
        (generate MemoryStore.provider r.asParams).run .empty = (.ok report, store) ∧
        ((Commission.mk (FileTree.slashed "out" 0) (Prompt.ofPolicy .never) r.asParams).run.run
          FileTree.outTree).run () = ((result, t'), ()) ∧
        (result = .ok report ∧ store.MirroredBy t' ["out"] ↔
          r.declarationExt ≠ r.definitionExt ∧
            ∀ kind, Fits (FileTree.slashed "out" 0) (r.path kind)) := by
  intro r
  have hv : (⟨"a", true, ["B"], "h", "c"⟩ : Request).validate = .ok () := rfl
  have h : r.Accepted r.asParams := Request.accepted_asParams hv
  have hnul (kind : ArtifactKind) : '\x00' ∉ (r.path kind).toList := by cases kind <;> decide
  have hshort (kind : ArtifactKind) : (r.path kind).utf8ByteSize ≤ FileTree.longestName := by
    cases kind <;> decide
  have ht := FileTree.emptyDirectory_outTree (Nat.zero_le 4092)
  exact ⟨h, hnul, hshort, ht, rehearsal_iff h hnul hshort ht ()⟩

/-- With so many slashes after it the directory is found, but the paths of the artifacts are too
long: both are written in memory and neither in the directory. -/
theorem rehearsal_misled :
    let r : Request := ⟨"a", false, [], "h", "c"⟩
    let dir := FileTree.slashed "out" 4088
    r.Accepted r.asParams ∧ (∀ kind, '\x00' ∉ (r.path kind).toList) ∧
      (∀ kind, (r.path kind).utf8ByteSize ≤ FileTree.longestName) ∧
      FileTree.outTree.EmptyDirectory dir ["out"] ∧ r.declarationExt ≠ r.definitionExt ∧
      ∃ report store result t',
        (generate MemoryStore.provider r.asParams).run .empty = (.ok report, store) ∧
        ((Commission.mk dir (Prompt.ofPolicy .never) r.asParams).run.run FileTree.outTree).run () =
          ((result, t'), ()) ∧ result ≠ .ok report := by
  intro r dir
  have hv : (⟨"a", false, [], "h", "c"⟩ : Request).validate = .ok () := rfl
  have h : r.Accepted r.asParams := Request.accepted_asParams hv
  have hnul (kind : ArtifactKind) : '\x00' ∉ (r.path kind).toList := by cases kind <;> decide
  have hshort (kind : ArtifactKind) : (r.path kind).utf8ByteSize ≤ FileTree.longestName := by
    cases kind <;> decide
  have hn : 4088 ≤ 4092 := by decide
  have ht : FileTree.outTree.EmptyDirectory dir ["out"] := FileTree.emptyDirectory_outTree hn
  have hfits : ¬ Fits dir (r.path .declaration) := by
    have hsize : dir.utf8ByteSize = 3 + 4088 := FileTree.utf8ByteSize_slashed "out" 4088
    have hname : (r.path .declaration).utf8ByteSize = 11 := by decide
    have hjoin := Path.utf8ByteSize_join (h.plain_path .declaration) dir
    rw [Fits, FileTree.longestPath]
    omega
  obtain ⟨result, t', hrun, hne⟩ :=
    Request.incomplete_of_not_fits h (h.fileable hnul hshort) ht hfits ()
  exact ⟨h, hnul, hshort, ht, by decide, _, _, result, t', Request.generate_memory h, hrun, hne⟩

end Scaffold
