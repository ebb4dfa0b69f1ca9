import Scaffold.Proofs.Writing

/-!
Which artifacts are still there once a backend has been generated.
-/
namespace Scaffold

/-- After a generation every artifact that was written is found under its path with the text of its
kind, unless both were written and their extensions are the same: then the definition has taken the
place of the declaration. This holds in memory, whatever was there before, and in trees of files
and directories, whatever the prompt answers. -/
theorem generate_keeps_written_iff {r : Request} {params : Params} (h : r.Accepted params) :
    (∀ store : MemoryStore, ∃ report store',
      (generate MemoryStore.provider params).run store = (.ok report, store') ∧
        (report.Kept r (fun path text => store'.get? path = some text) ↔
          ¬ (r.declarationExt = r.definitionExt ∧ report.isComplete))) ∧
    ∀ (σ : Type) (t : FileTree) (dir : String) (ask : Prompt σ) (s : σ), t.Regular →
      ∃ report t' s',
        ((generate (FileTree.provider dir ask) params).run t).run s = ((.ok report, t'), s') ∧
          (report.Kept r (fun path text => t'.contents (Path.join dir path) = .ok text.toUTF8) ↔
            ¬ (r.declarationExt = r.definitionExt ∧ report.isComplete)) := by
  have hdecl := r.fragments_derived .declaration
  have hdef := r.fragments_derived .definition
  refine ⟨fun store => ?_, fun σ t dir ask s ht => ?_⟩
  · obtain ⟨a₁, store₁, hrun₁, hsettles₁⟩ := MemoryStore.settles_attempt
      (a := r.assignment .declaration) hdecl (h.plain_path .declaration) store
    obtain ⟨a₂, store₂, hrun₂, hsettles₂⟩ := MemoryStore.settles_attempt
      (a := r.assignment .definition) hdef (h.plain_path .definition) store₁
    refine ⟨r.report a₁ a₂, store₂, generate_run h hrun₁ hrun₂, ?_⟩
    refine r.kept_report_iff h (fun store path x y hx hy => ?_) hsettles₁ hsettles₂
    exact Option.some.inj (hx.symm.trans hy)
  · obtain ⟨a₁, t₁, s₁, hrun₁, ht₁, hsettles₁⟩ := FileTree.settles_attempt
      (a := r.assignment .declaration) dir ask ht hdecl (h.plain_path .declaration) s
    obtain ⟨a₂, t₂, s₂, hrun₂, -, hsettles₂⟩ := FileTree.settles_attempt
      (a := r.assignment .definition) dir ask ht₁ hdef (h.plain_path .definition) s₁
    refine ⟨r.report a₁ a₂, t₂, s₂, generate_run_run h hrun₁ hrun₂, ?_⟩
    refine r.kept_report_iff h (fun t path x y hx hy => ?_) hsettles₁ hsettles₂
    have hbytes : x.toUTF8 = y.toUTF8 := Except.ok.inj (hx.symm.trans hy)
    exact String.toByteArray_inj.1 hbytes

/-- Two extensions that are the same, in memory and in an empty directory. -/
theorem generate_keeps_written_iff_shared :
    let r : Request := ⟨"a", false, [], "h", "h"⟩
    let t : FileTree := ⟨[(["out"], .directory)], []⟩
    let ask : Prompt (List String) := fun path _ asked => (.ok true, asked ++ [path])
    r.Accepted r.asParams ∧ t.Regular ∧
      (∃ report store', (generate MemoryStore.provider r.asParams).run .empty =
          (.ok report, store') ∧
        (report.Kept r (fun path text => store'.get? path = some text) ↔
          ¬ (r.declarationExt = r.definitionExt ∧ report.isComplete))) ∧
      ∃ report t' asked, ((generate (FileTree.provider "out" ask) r.asParams).run t).run [] =
          ((.ok report, t'), asked) ∧
        (report.Kept r (fun path text => t'.contents (Path.join "out" path) = .ok text.toUTF8) ↔
          ¬ (r.declarationExt = r.definitionExt ∧ report.isComplete)) := by
  intro r t ask
  have hv : (⟨"a", false, [], "h", "h"⟩ : Request).validate = .ok () := rfl
  have h : r.Accepted r.asParams := Request.accepted_asParams hv
  have ht : t.Regular := by
    intro location e he
    unfold FileTree.entry? at he
    split at he
    · exact Or.inl (Option.some.inj he).symm
    · simp only [t, Table.find?] at he
      split at he
      · exact Or.inl (Option.some.inj he).symm
      · cases he
  obtain ⟨hmemory, hfiles⟩ := generate_keeps_written_iff h
  exact ⟨h, ht, hmemory .empty, hfiles _ t "out" ask [] ht⟩

/-- The definition is written over the declaration, and both are reported as written. -/
theorem generate_overwrites_declaration :
    let r : Request := ⟨"a", false, [], "h", "h"⟩
    r.Accepted r.asParams ∧ ∃ report store,
      (generate MemoryStore.provider r.asParams).run .empty = (.ok report, store) ∧
        report.isComplete ∧ ¬ report.Kept r (fun path text => store.get? path = some text) := by
  intro r
  have hv : (⟨"a", false, [], "h", "h"⟩ : Request).validate = .ok () := rfl
  have h : r.Accepted r.asParams := Request.accepted_asParams hv
  let store₁ := MemoryStore.empty.release ⟨r.path .declaration, r.text .declaration⟩
  have hopen₁ : MemoryStore.empty.openSink (r.path .declaration) =
    .opened ⟨r.path .declaration, ""⟩ := rfl
  have hopen₂ : store₁.openSink (r.path .definition) = .opened ⟨r.path .definition, ""⟩ := rfl
  have hrun₁ := MemoryStore.run_attempt_opened (a := r.assignment .declaration)
    (r.fragments_derived .declaration) hopen₁
  have hrun₂ := MemoryStore.run_attempt_opened (a := r.assignment .definition)
    (r.fragments_derived .definition) hopen₂
  refine ⟨h, _, _, generate_run h hrun₁ hrun₂, rfl, fun hkept => ?_⟩
  obtain ⟨hdecl, -⟩ := hkept _ List.mem_cons_self _ rfl
  have hdef : (store₁.release ⟨r.path .definition, r.text .definition⟩).get?
      (r.path .declaration) = some (r.text .definition) :=
    (MemoryStore.get?_release ..).trans (if_pos Std.ReflCmp.compare_self)
  exact r.text_ne (Option.some.inj (hdecl.symm.trans hdef))

end Scaffold
