import Scaffold.Proofs.Paths

/-!
Resolution of paths in trees of files and directories.

Without links a path is followed name by name. It leads to an entry of a directory as long as the
directories on the way stay, whatever becomes of the files.
-/
namespace Scaffold.FileTree

variable {t t' : FileTree} {here there location : Location} {dir name : String}
  {way : List String} {landing : Landing}

/-- A tree of directories and files alone. -/
def Regular (t : FileTree) : Prop :=
  ∀ location e, t.entry? location = some e → e = .directory ∨ ∃ bytes, e = .file bytes

/-- A tree without symbolic links. -/
def Linkless (t : FileTree) : Prop := ∀ location target, t.entry? location ≠ some (.link target)

theorem Regular.linkless (ht : t.Regular) : t.Linkless := by
  intro location target h
  rcases ht location _ h with h | ⟨_, h⟩
  · cases h
  · cases h

theorem linkless_of_entries (h : ∀ e ∈ t.entries, ∀ target, e.2 ≠ .link target) : t.Linkless := by
  intro location target hfound
  unfold entry? at hfound
  split at hfound
  · cases hfound
  · obtain ⟨l, hmem⟩ := Table.mem_of_find? hfound
    exact h _ hmem target rfl

/-- Names lead from one directory to another. -/
inductive Descends (t : FileTree) : Location → List String → Location → Prop where
  | stop (here : Location) : Descends t here [] here
  | skip {here there : Location} {name : String} {way : List String}
      (empty : name = "" ∨ name = ".") (rest : Descends t here way there) :
      Descends t here (name :: way) there
  | up {here there : Location} {way : List String}
      (rest : Descends t here.dropLast way there) : Descends t here (".." :: way) there
  | into {here there : Location} {name : String} {way : List String}
      (full : ¬ (name = "" ∨ name = ".")) (down : name ≠ "..")
      (short : name.utf8ByteSize ≤ longestName)
      (found : t.entry? (here ++ [name]) = some .directory)
      (rest : Descends t (here ++ [name]) way there) : Descends t here (name :: way) there

theorem Descends.mono (h : t.Descends here way there)
    (hd : ∀ l, t.entry? l = some .directory → t'.entry? l = some .directory) :
    t'.Descends here way there := by
  induction h with
  | stop here => exact .stop here
  | skip empty _ ih => exact .skip empty ih
  | up _ ih => exact .up ih
  | into full down short found _ ih => exact .into full down short (hd _ found) ih

theorem descends_skip (empty : name = "" ∨ name = ".") :
    t.Descends here (name :: way) there ↔ t.Descends here way there := by
  constructor
  · intro h
    cases h with
    | skip _ rest => exact rest
    | up rest => simp at empty
    | into full => exact absurd empty full
  · exact .skip empty

theorem descends_up :
    t.Descends here (".." :: way) there ↔ t.Descends here.dropLast way there := by
  constructor
  · intro h
    cases h with
    | skip empty => simp at empty
    | up rest => exact rest
    | into _ down => exact absurd rfl down
  · exact .up

theorem descends_into (full : ¬ (name = "" ∨ name = ".")) (down : name ≠ "..") :
    t.Descends here (name :: way) there ↔ name.utf8ByteSize ≤ longestName ∧
      t.entry? (here ++ [name]) = some .directory ∧ t.Descends (here ++ [name]) way there := by
  constructor
  · intro h
    cases h with
    | skip empty => exact absurd empty full
    | up => exact absurd rfl down
    | into _ _ short found rest => exact ⟨short, found, rest⟩
  · rintro ⟨short, found, rest⟩
    exact .into full down short found rest

/-- What is found where a path ends. -/
def landingAt (t : FileTree) (location : Location) : Landing :=
  match t.entry? location with
  | none => .free location
  | some e => .taken location e

/-- A link that comes last must not be followed, or the walk goes on from there. -/
theorem walk_last (hn : Path.Plain name) {purpose : Purpose}
    (hlink : ∀ target, t.entry? (here ++ [name]) = some (.link target) →
      purpose.followsLast = false) (links : Nat) :
    t.walk purpose links here [name] =
      if longestName < name.utf8ByteSize then .error .nameTooLong
      else .ok (t.landingAt (here ++ [name])) := by
  have hfull : ¬ (name = "" || name = ".") := by simp [hn.nonempty, hn.notCurrent]
  have hfile : ¬ (purpose.makesFile && ([] : List String) = [""]) := by simp
  rw [walk, if_neg hfull, if_neg hn.notParent, if_neg hfile]
  split
  · rfl
  · rw [landingAt]
    cases he : t.entry? (here ++ [name]) with
    | none => simp [he]
    | some e =>
      cases e with
      | link target => simp [he, hlink target he]
      | directory => simp [he, walk]
      | file bytes => simp [he]
      | fullDevice => simp [he]

/-- Without links, names are followed to an entry through the directories above it. -/
theorem walk_eq_ok_iff (ht : t.Regular) (hn : Path.Plain name) (purpose : Purpose) (links : Nat) :
    t.walk purpose links here (way ++ [name]) = .ok landing ↔
      ∃ there, t.Descends here way there ∧ name.utf8ByteSize ≤ longestName ∧
        landing = t.landingAt (there ++ [name]) := by
  -- on the names that come before the last one, case by case as the walk and `Descends` do
  induction way generalizing here with
  | nil =>
    rw [List.nil_append, walk_last hn fun target he => absurd he (ht.linkless _ target)]
    constructor
    · intro h
      split at h
      · cases h
      · next hs =>
        exact ⟨here, .stop here, Nat.le_of_not_lt hs, (Except.ok.inj h).symm⟩
    · rintro ⟨there, hd, hs, rfl⟩
      cases hd
      rw [if_neg (Nat.not_lt.2 hs)]
  | cons n way ih =>
    have hmore : (way ++ [name]).isEmpty = false := by simp
    -- no slash stands at the end, since the last name is not empty
    have hfile : ¬ (purpose.makesFile && way ++ [name] = [""]) := by
      intro h
      rw [Bool.and_eq_true, decide_eq_true_iff] at h
      have hlast := congrArg List.getLast? h.2
      rw [List.getLast?_concat] at hlast
      exact hn.nonempty (Option.some.inj hlast)
    rw [List.cons_append, walk]
    by_cases hskip : n = "" ∨ n = "."
    · rw [if_pos (by simpa using hskip), ih]
      simp only [descends_skip hskip]
    · rw [if_neg (by simpa using hskip)]
      by_cases hup : n = ".."
      · rw [if_pos hup, ih, hup]
        simp only [descends_up]
      · rw [if_neg hup, if_neg hfile]
        simp only [descends_into hskip hup]
        split
        · next hlong => simp [Nat.not_le.2 hlong]
        · next hshort =>
          have hshort := Nat.le_of_not_lt hshort
          cases he : t.entry? (here ++ [n]) with
          | none => simp
          | some e =>
            rcases ht _ _ he with rfl | ⟨bytes, rfl⟩
            · simp [ih, hshort]
            · simp

/-- The entry of a name in a directory is at a place, whether or not there is anything. -/
structure Reaches (t : FileTree) (dir name : String) (location : Location) : Prop where
  checked : checkPath (Path.join dir name) = .ok ()
  short : name.utf8ByteSize ≤ longestName
  descends : ∃ there, location = there ++ [name] ∧
    t.Descends (origin t.workingDirectory (Path.join dir name)) (names dir) there

theorem Reaches.getLast? (h : t.Reaches dir name location) : location.getLast? = some name := by
  obtain ⟨there, rfl, -⟩ := h.descends
  exact List.getLast?_concat

theorem resolve_eq_ok_iff (ht : t.Regular) (hn : Path.Plain name) (purpose : Purpose) :
    t.resolve purpose (Path.join dir name) (steps (Path.join dir name)) = .ok landing ↔
      ∃ location, t.Reaches dir name location ∧ landing = t.landingAt location := by
  rw [resolve, steps_join hn]
  cases hc : checkPath (Path.join dir name) with
  | error fault =>
    constructor
    · intro h
      cases h
    · rintro ⟨_, hr, -⟩
      rw [hr.checked] at hc
      cases hc
  | ok _ =>
    change t.walk _ _ _ _ = _ ↔ _
    rw [walk_eq_ok_iff ht hn]
    constructor
    · rintro ⟨there, hd, hs, rfl⟩
      exact ⟨_, ⟨hc, hs, there, rfl, hd⟩, rfl⟩
    · rintro ⟨_, ⟨-, hs, there, rfl, hd⟩, rfl⟩
      exact ⟨there, hd, hs, rfl⟩

theorem contents_eq_ok_iff (ht : t.Regular) (hn : Path.Plain name) {bytes : ByteArray} :
    t.contents (Path.join dir name) = .ok bytes ↔
      ∃ location, t.Reaches dir name location ∧ t.entry? location = some (.file bytes) := by
  have hr (landing : Landing) :
      t.resolve ⟨true, false⟩ (Path.join dir name) (steps (Path.join dir name)) = .ok landing ↔
        ∃ location, t.Reaches dir name location ∧ landing = t.landingAt location :=
    resolve_eq_ok_iff ht hn ⟨true, false⟩
  rw [contents, status]
  constructor
  · intro h
    cases hres : t.resolve ⟨true, false⟩ (Path.join dir name) (steps (Path.join dir name)) with
    | error fault =>
      rw [hres] at h
      cases h
    | ok landing =>
      obtain ⟨location, hl, rfl⟩ := (hr landing).1 hres
      rw [hres, landingAt] at h
      refine ⟨location, hl, ?_⟩
      cases he : t.entry? location with
      | none =>
        rw [he] at h
        cases h
      | some e =>
        rw [he] at h
        rcases ht _ _ he with rfl | ⟨bytes, rfl⟩
        · cases h
        · cases h
          rfl
  · rintro ⟨location, hl, he⟩
    rw [(hr _).2 ⟨location, hl, rfl⟩, landingAt, he]
    rfl

/-! ### Changes to files of one name -/

/-- One tree differs from another in files of a name alone. -/
structure Beside (name : String) (t t' : FileTree) : Prop where
  elsewhere : ∀ l : Location, l.getLast? ≠ some name → t'.entry? l = t.entry? l
  directories : ∀ l, t.entry? l = some .directory → t'.entry? l = some .directory
  workingDirectory : t'.workingDirectory = t.workingDirectory
  regular : t.Regular → t'.Regular

theorem Beside.refl (name : String) (t : FileTree) : Beside name t t :=
  ⟨fun _ _ => rfl, fun _ h => h, rfl, id⟩

theorem Beside.trans {t'' : FileTree} (h : Beside name t t') (h' : Beside name t' t'') :
    Beside name t t'' :=
  ⟨fun l hl => (h'.elsewhere l hl).trans (h.elsewhere l hl),
    fun l hl => h'.directories l (h.directories l hl),
    h'.workingDirectory.trans h.workingDirectory, h'.regular ∘ h.regular⟩

theorem Reaches.beside {other : String} (h : t.Reaches dir other location)
    (hb : Beside name t t') : t'.Reaches dir other location := by
  obtain ⟨there, hl, hd⟩ := h.descends
  refine ⟨h.checked, h.short, there, hl, ?_⟩
  rw [hb.workingDirectory]
  exact hd.mono hb.directories

/-- A file keeps its contents when files of another name change. -/
theorem contents_beside {other : String} {bytes : ByteArray} (ht : t.Regular)
    (ho : Path.Plain other) (hne : other ≠ name) (hb : Beside name t t')
    (h : t.contents (Path.join dir other) = .ok bytes) :
    t'.contents (Path.join dir other) = .ok bytes := by
  obtain ⟨location, hr, he⟩ := (contents_eq_ok_iff ht ho).1 h
  refine (contents_eq_ok_iff (hb.regular ht) ho).2 ⟨location, hr.beside hb, ?_⟩
  rw [hb.elsewhere, he]
  rw [hr.getLast?]
  exact fun h => hne (Option.some.inj h)

theorem ne_nil_of_getLast? (hl : location.getLast? = some name) : location ≠ [] := by
  rintro rfl
  cases hl

theorem entry?_put (t : FileTree) {location : Location} (hl : location ≠ []) (e : Entry)
    (l : Location) : entry? (t.put location e) l = if l = location then some e else t.entry? l := by
  have hcmp : (compare l location = .eq) = (l = location) := propext Std.compare_eq_iff_eq
  unfold entry?
  rw [put, Table.find?_insert]
  simp only [hcmp]
  split
  · next h =>
    rw [if_neg]
    rintro rfl
    exact hl h
  · rfl

theorem regular_put (ht : t.Regular) (hl : location ≠ []) (bytes : ByteArray) :
    (t.put location (.file bytes)).Regular := by
  intro l e he
  rw [entry?_put t hl] at he
  split at he
  · exact Or.inr ⟨bytes, (Option.some.inj he).symm⟩
  · exact ht l e he

theorem beside_put (hl : location.getLast? = some name) (hd : t.entry? location ≠ some .directory)
    (bytes : ByteArray) : Beside name t (t.put location (.file bytes)) := by
  have hne := ne_nil_of_getLast? hl
  refine ⟨fun l h => ?_, fun l h => ?_, rfl, fun ht => regular_put ht hne bytes⟩
  · rw [entry?_put t hne, if_neg]
    rintro rfl
    exact h hl
  · rw [entry?_put t hne, if_neg, h]
    rintro rfl
    exact hd h

end Scaffold.FileTree
