import Scaffold.Proofs.Directories

/-!
Entries of a directory, looked up by a path.

The path of an artifact is the path of a directory with a name after it. Unless it is too long to be
looked up, it leads to what has the name where the directory is, whatever links the directory is
reached through.
-/
namespace Scaffold.FileTree

variable {t : FileTree} {location : Location} {dir name : String}

theorem Leads.nul_not_mem (h : t.Leads dir location) : '\x00' ∉ dir.toList := by
  rw [Leads] at h
  split at h
  · next hempty =>
    subst hempty
    simp
  · obtain ⟨hcheck, -⟩ := status_eq_ok_iff_follows.1 h
    rw [checkPath] at hcheck
    split at hcheck
    · cases hcheck
    · next hnul => simpa using hnul

theorem checkPath_join (hl : t.Leads dir location) (hn : Path.Plain name)
    (hnul : '\x00' ∉ name.toList) : checkPath (Path.join dir name) =
      if longestPath < (Path.join dir name).utf8ByteSize then .error .nameTooLong else .ok () := by
  have hdir := hl.nul_not_mem
  have hmem : '\x00' ∉ (Path.join dir name).toList := by
    rw [Path.join]
    split
    · exact hnul
    · split
      · simp [hdir, hnul]
      · simp [hdir, hnul]
  have hempty : Path.join dir name ≠ "" := by
    rw [Path.join]
    split
    · exact hn.nonempty
    · split
      · simp [hn.nonempty]
      · simp [hn.nonempty]
  have hcontains : ¬ (Path.join dir name).toList.contains '\x00' = true := by simpa using hmem
  have hisEmpty : ¬ (Path.join dir name).isEmpty = true := by simpa using hempty
  rw [checkPath, if_neg hcontains, if_neg hisEmpty]

theorem origin_join (hd : dir ≠ "") (hn : Path.Plain name) (here : Location) :
    origin here (Path.join dir name) = origin here dir := by
  have hempty : ¬ dir.isEmpty = true := by simpa using hd
  have habs : Path.isAbsolute (Path.join dir name) = Path.isAbsolute dir := by
    rcases hcs : dir.toList with _ | ⟨c, cs⟩
    · exact absurd (String.toList_inj.1 hcs) hd
    · rw [Path.join, hn.not_absolute, Bool.false_or, if_neg hempty]
      split
      · simp [Path.isAbsolute, hcs]
      · simp [Path.isAbsolute, hcs]
  rw [origin, origin, habs]

/-- The path of an artifact is followed from its directory, with the links that are left. -/
theorem Leads.walk_join (hl : t.Leads dir location) (hn : Path.Plain name) :
    ∃ left, ∀ purpose,
      t.walk purpose mostLinks (origin t.workingDirectory (Path.join dir name))
        (steps (Path.join dir name)) = t.walk purpose left location [name] := by
  rw [steps_join hn]
  rw [Leads] at hl
  split at hl
  · next hempty =>
    subst hempty hl
    have hjoin : Path.join "" name = name := by rw [Path.join, if_pos (by simp)]
    have horigin : origin t.workingDirectory name = t.workingDirectory := by
      rw [origin, hn.not_absolute]
      rfl
    rw [hjoin, horigin]
    exact ⟨mostLinks, fun _ => rfl⟩
  · next hfull =>
    rw [origin_join hfull hn]
    refine (follows_names hl).walk_append ⟨by simp, fun h => ?_⟩
    exact hn.nonempty (List.cons.inj h).1

/-- Whether a name can be looked up in a directory. -/
def checkName (dir name : String) : Except IoFault Unit := do
  checkPath (Path.join dir name)
  if longestName < name.utf8ByteSize then .error .nameTooLong else .ok ()

theorem checkName_ne_alreadyExists (dir name : String) :
    checkName dir name ≠ .error .alreadyExists := by
  have hcheck := checkPath_ne_alreadyExists (Path.join dir name)
  rw [checkName]
  cases hc : checkPath (Path.join dir name) with
  | error fault =>
    rw [hc] at hcheck
    exact hcheck
  | ok _ =>
    change (if _ then _ else _) ≠ _
    split
    · simp
    · simp

/-- A file for a name is to be made at its place in the directory, as long as no link is followed
from there. -/
theorem target_join (hl : t.Leads dir location) (hn : Path.Plain name) {follow : Bool}
    (hlink : ∀ target, t.entry? (location ++ [name]) = some (.link target) → follow = false) :
    t.target follow (Path.join dir name) =
      (checkName dir name).map fun _ => t.landingAt (location ++ [name]) := by
  obtain ⟨left, hwalk⟩ := hl.walk_join hn
  rw [target, resolve, checkName]
  cases checkPath (Path.join dir name) with
  | error fault => rfl
  | ok _ =>
    change t.walk ⟨follow, true⟩ _ _ _ = Except.map _ (if _ then _ else _)
    rw [hwalk, walk_last hn hlink]
    split
    · rfl
    · rfl

/-! ### Making files -/

section Making

variable (hl : t.Leads dir location) (hn : Path.Plain name)

include hl hn

theorem createNew_refused {fault : IoFault} (ha : checkName dir name = .error fault) :
    t.createNew (Path.join dir name) = (.error fault, t) := by
  rw [createNew, target_join hl hn fun _ _ => rfl, ha]
  rfl

theorem createNew_free (ha : checkName dir name = .ok ())
    (hfree : t.entry? (location ++ [name]) = none) : t.createNew (Path.join dir name) =
      (.ok (.file (location ++ [name]) 0), t.put (location ++ [name]) (.file .empty)) := by
  rw [createNew, target_join hl hn fun _ _ => rfl, ha, landingAt, hfree]
  rfl

theorem createNew_taken {e : Entry} (ha : checkName dir name = .ok ())
    (htaken : t.entry? (location ++ [name]) = some e) :
    t.createNew (Path.join dir name) = (.error .alreadyExists, t) := by
  rw [createNew, target_join hl hn fun _ _ => rfl, ha, landingAt, htaken]
  rfl

/-- The entry that is to be emptied, if it is no link. -/
theorem target_taken {e : Entry} (ha : checkName dir name = .ok ())
    (htaken : t.entry? (location ++ [name]) = some e) (hlink : ∀ target, e ≠ .link target) :
    t.target true (Path.join dir name) = .ok (.taken (location ++ [name]) e) := by
  have hnone (target : String) (he : t.entry? (location ++ [name]) = some (.link target)) :
      true = false := by
    rw [htaken] at he
    exact absurd (Option.some.inj he) (hlink target)
  rw [target_join hl hn hnone, ha, landingAt, htaken]
  rfl

end Making

end Scaffold.FileTree
