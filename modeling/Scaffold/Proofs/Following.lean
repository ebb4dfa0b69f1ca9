import Scaffold.Proofs.Resolution

/-!
Resolution of paths in trees with symbolic links.

What a walk does is stated once, as a relation with one rule for each way to go on. From it follows
what a landing says about the entry it is at, that a walk to an entry stays the same when entries
are added, and that a path below a directory is followed through the directory.
-/
namespace Scaffold.FileTree

variable {t t' : FileTree} {purpose : Purpose} {links : Nat} {here location : Location}
  {name : String} {way : List String} {landing : Landing} {e : Entry}

/-- A name that is looked up in a directory, with the names that come after it. -/
structure Sought (purpose : Purpose) (name : String) (way : List String) : Prop where
  full : ¬ (name = "" ∨ name = ".")
  down : name ≠ ".."
  short : name.utf8ByteSize ≤ longestName
  noSlash : ¬ (purpose.makesFile = true ∧ way = [""])

/-- Names lead from a directory to a landing, with so many links to be followed at most. -/
inductive Follows (t : FileTree) (purpose : Purpose) :
    Nat → Location → List String → Landing → Prop where
  | stop (links : Nat) (here : Location) : Follows t purpose links here [] (.taken here .directory)
  | skip {links : Nat} {here : Location} {name : String} {way : List String} {landing : Landing}
      (empty : name = "" ∨ name = ".") (rest : Follows t purpose links here way landing) :
      Follows t purpose links here (name :: way) landing
  | up {links : Nat} {here : Location} {way : List String} {landing : Landing}
      (rest : Follows t purpose links here.dropLast way landing) :
      Follows t purpose links here (".." :: way) landing
  | free {links : Nat} {here : Location} {name : String} (sought : Sought purpose name [])
      (unfound : t.entry? (here ++ [name]) = none) :
      Follows t purpose links here [name] (.free (here ++ [name]))
  | into {links : Nat} {here : Location} {name : String} {way : List String} {landing : Landing}
      (sought : Sought purpose name way) (found : t.entry? (here ++ [name]) = some .directory)
      (rest : Follows t purpose links (here ++ [name]) way landing) :
      Follows t purpose links here (name :: way) landing
  | link {links : Nat} {here : Location} {name target : String} {way : List String}
      {landing : Landing} (sought : Sought purpose name way)
      (found : t.entry? (here ++ [name]) = some (.link target))
      (followed : way ≠ [] ∨ purpose.followsLast = true)
      (rest : Follows t purpose links (origin here target) (steps target ++ way) landing) :
      Follows t purpose (links + 1) here (name :: way) landing
  | stay {links : Nat} {here : Location} {name target : String} (sought : Sought purpose name [])
      (found : t.entry? (here ++ [name]) = some (.link target))
      (unfollowed : purpose.followsLast = false) :
      Follows t purpose links here [name] (.taken (here ++ [name]) (.link target))
  | last {links : Nat} {here : Location} {name : String} {e : Entry}
      (sought : Sought purpose name []) (found : t.entry? (here ++ [name]) = some e)
      (nodir : e ≠ .directory) (nolink : ∀ target, e ≠ .link target) :
      Follows t purpose links here [name] (.taken (here ++ [name]) e)

/-- Where no file is made, it makes no difference what comes after a name. -/
theorem Sought.lookup {way' : List String} (h : Sought purpose name way) (follow : Bool) :
    Sought ⟨follow, false⟩ name way' := ⟨h.full, h.down, h.short, by simp⟩

theorem Sought.of_walk (hskip : ¬ (decide (name = "") || decide (name = ".")) = true)
    (hdown : ¬ name = "..") (hfile : ¬ (purpose.makesFile && decide (way = [""])) = true)
    (hshort : ¬ longestName < name.utf8ByteSize) : Sought purpose name way :=
  ⟨by simpa using hskip, hdown, Nat.le_of_not_lt hshort, by simpa using hfile⟩

theorem Follows.of_walk (h : t.walk purpose links here way = .ok landing) :
    t.Follows purpose links here way landing := by
  -- a case for each branch of the walk: those that fail have no landing
  fun_induction t.walk purpose links here way with
  | case1 links here =>
    cases h
    exact .stop links here
  | case2 links here name rest hskip ih => exact .skip (by simpa using hskip) (ih h)
  | case3 links here rest hskip ih => exact .up (ih h)
  | case4 => cases h
  | case5 => cases h
  | case6 links here name rest hskip hdown hfile hshort there hfound hlast =>
    cases h
    cases List.isEmpty_iff.1 hlast
    exact .free (.of_walk hskip hdown hfile hshort) hfound
  | case7 => cases h
  | case8 links here name rest hskip hdown hfile hshort there hfound ih =>
    exact .into (.of_walk hskip hdown hfile hshort) hfound (ih h)
  | case9 links here name rest hskip hdown hfile hshort there target hfound hlast =>
    cases h
    rw [Bool.and_eq_true, List.isEmpty_iff, Bool.not_eq_true'] at hlast
    obtain ⟨rfl, hunfollowed⟩ := hlast
    exact .stay (.of_walk hskip hdown hfile hshort) hfound hunfollowed
  | case10 => cases h
  | case11 here name rest hskip hdown hfile hshort there target hfound hlast links ih =>
    rw [Bool.and_eq_true, List.isEmpty_iff, Bool.not_eq_true',
      Decidable.not_and_iff_not_or_not, Bool.not_eq_false] at hlast
    exact .link (.of_walk hskip hdown hfile hshort) hfound hlast (ih h)
  | case12 links here name rest hskip hdown hfile hshort there e hnodir hnolink hfound hlast =>
    cases h
    cases List.isEmpty_iff.1 hlast
    exact .last (.of_walk hskip hdown hfile hshort) hfound (fun h => hnodir h)
      (fun target h => hnolink target h)
  | case13 => cases h

/-- What a walk does first with a name that is sought. -/
theorem Sought.walk_eq (h : Sought purpose name way) :
    t.walk purpose links here (name :: way) =
      match t.entry? (here ++ [name]) with
      | none => if way.isEmpty then .ok (.free (here ++ [name])) else .error .notFound
      | some .directory => t.walk purpose links (here ++ [name]) way
      | some (.link target) =>
        if way.isEmpty && !purpose.followsLast then .ok (.taken (here ++ [name]) (.link target))
        else match links with
          | 0 => .error .tooManyLinks
          | links + 1 => t.walk purpose links (origin here target) (steps target ++ way)
      | some e =>
        if way.isEmpty then .ok (.taken (here ++ [name]) e) else .error .notDirectory := by
  have hskip : ¬ (decide (name = "") || decide (name = ".")) = true := by simpa using h.full
  have hfile : ¬ (purpose.makesFile && decide (way = [""])) = true := by simpa using h.noSlash
  rw [walk, if_neg hskip, if_neg h.down, if_neg hfile]
  exact if_neg (Nat.not_lt.2 h.short)

theorem Follows.walk_eq (h : t.Follows purpose links here way landing) :
    t.walk purpose links here way = .ok landing := by
  induction h with
  | stop links here => rw [walk]
  | skip empty _ ih => rw [walk, if_pos (by simpa using empty), ih]
  | up _ ih => rw [walk, if_neg (by decide), if_pos rfl, ih]
  | free sought unfound => simp [sought.walk_eq, unfound]
  | into sought found _ ih => simp [sought.walk_eq, found, ih]
  | @link links here name target way landing sought found followed _ ih =>
    have hlast : (way.isEmpty && !purpose.followsLast) = false := by
      rcases followed with h | h
      · simp [h]
      · simp [h]
    simp [sought.walk_eq, found, hlast, ih]
  | stay sought found unfollowed => simp [sought.walk_eq, found, unfollowed]
  | @last links here name e sought found nodir nolink =>
    rw [sought.walk_eq, found]
    cases e with
    | directory => exact absurd rfl nodir
    | link target => exact absurd rfl (nolink target)
    | file bytes => rfl
    | fullDevice => rfl

theorem walk_eq_ok_iff_follows :
    t.walk purpose links here way = .ok landing ↔ t.Follows purpose links here way landing :=
  ⟨.of_walk, Follows.walk_eq⟩

theorem resolve_eq_ok_iff_follows {path : String} :
    t.resolve purpose path way = .ok landing ↔ checkPath path = .ok () ∧
      t.Follows purpose mostLinks (origin t.workingDirectory path) way landing := by
  rw [resolve, ← walk_eq_ok_iff_follows]
  cases checkPath path with
  | error fault =>
    constructor
    · intro h
      cases h
    · rintro ⟨h, -⟩
      cases h
  | ok _ => exact ⟨fun h => ⟨rfl, h⟩, fun h => h.2⟩

/-- Looking for a path never finds that it exists already; only making something does. -/
theorem checkPath_ne_alreadyExists (path : String) : checkPath path ≠ .error .alreadyExists := by
  intro h
  rw [checkPath] at h
  split at h
  · cases h
  · split at h
    · cases h
    · split at h <;> cases h

theorem resolve_ne_alreadyExists (path : String) :
    t.resolve purpose path way ≠ .error .alreadyExists := by
  have hwalk (links : Nat) (here : Location) (way : List String) :
      t.walk purpose links here way ≠ .error .alreadyExists := by
    fun_induction t.walk purpose links here way <;> first | assumption | simp
  have hcheck := checkPath_ne_alreadyExists path
  rw [resolve]
  cases hc : checkPath path with
  | ok _ => exact hwalk _ _ _
  | error fault =>
    intro h
    cases h
    exact hcheck hc

/-! ### Landings -/

/-- Nothing is at a free place. -/
theorem Follows.entry?_free (h : t.Follows purpose links here way (.free location)) :
    t.entry? location = none := by
  generalize hl : Landing.free location = landing at h
  induction h with
  | stop => cases hl
  | skip _ _ ih => exact ih hl
  | up _ ih => exact ih hl
  | free _ unfound =>
    cases hl
    exact unfound
  | into _ _ _ ih => exact ih hl
  | link _ _ _ _ ih => exact ih hl
  | stay => cases hl
  | last => cases hl

/-- A walk ends in a directory, or at an entry that is there. -/
theorem Follows.entry?_taken (h : t.Follows purpose links here way (.taken location e)) :
    e = .directory ∨ t.entry? location = some e := by
  generalize hl : Landing.taken location e = landing at h
  induction h with
  | stop =>
    cases hl
    exact Or.inl rfl
  | skip _ _ ih => exact ih hl
  | up _ ih => exact ih hl
  | free => cases hl
  | into _ _ _ ih => exact ih hl
  | link _ _ _ _ ih => exact ih hl
  | stay _ found =>
    cases hl
    exact Or.inr found
  | last _ found =>
    cases hl
    exact Or.inr found

/-- Making a file only rules out that a slash comes after it. -/
theorem Follows.of_makesFile {follow : Bool} (h : t.Follows ⟨follow, true⟩ links here way landing) :
    t.Follows ⟨follow, false⟩ links here way landing := by
  induction h with
  | stop links here => exact .stop links here
  | skip empty _ ih => exact .skip empty ih
  | up _ ih => exact .up ih
  | free sought unfound => exact .free (sought.lookup follow) unfound
  | into sought found _ ih => exact .into (sought.lookup follow) found ih
  | link sought found followed _ ih => exact .link (sought.lookup follow) found followed ih
  | stay sought found unfollowed => exact .stay (sought.lookup follow) found unfollowed
  | last sought found nodir nolink => exact .last (sought.lookup follow) found nodir nolink

/-! ### Added entries -/

/-- All entries of one tree are in another, which relative paths start from at the same place. -/
structure Extends (t t' : FileTree) : Prop where
  entries : ∀ location e, t.entry? location = some e → t'.entry? location = some e
  workingDirectory : t'.workingDirectory = t.workingDirectory

theorem Extends.refl (t : FileTree) : Extends t t := ⟨fun _ _ h => h, rfl⟩

theorem Extends.trans {t'' : FileTree} (h : Extends t t') (h' : Extends t' t'') :
    Extends t t'' :=
  ⟨fun l e he => h'.entries l e (h.entries l e he), h'.workingDirectory.trans h.workingDirectory⟩

/-- The root is always there, so what is put at a free place is put below it. -/
theorem ne_nil_of_not_directory (h : t.entry? location ≠ some .directory) : location ≠ [] := by
  intro hroot
  exact h (if_pos hroot)

theorem extends_put (h : t.entry? location = none) (e : Entry) : Extends t (t.put location e) := by
  have hdir : t.entry? location ≠ some .directory := by simp [h]
  have hne := ne_nil_of_not_directory hdir
  refine ⟨fun l e' he => ?_, rfl⟩
  rw [entry?_put t hne, if_neg, he]
  rintro rfl
  rw [h] at he
  cases he

/-- All entries of one tree but its files are in another, so that every directory that is led to
stays where it is. -/
structure Sustains (t t' : FileTree) : Prop where
  entries : ∀ location e, (∀ bytes, e ≠ .file bytes) → t.entry? location = some e →
    t'.entry? location = some e
  workingDirectory : t'.workingDirectory = t.workingDirectory

theorem Extends.sustains (h : Extends t t') : Sustains t t' :=
  ⟨fun l e _ he => h.entries l e he, h.workingDirectory⟩

/-- A walk to a directory only passes through directories and links. -/
theorem Follows.sustains (h : t.Follows purpose links here way (.taken location .directory))
    (hs : Sustains t t') : t'.Follows purpose links here way (.taken location .directory) := by
  have hdirectory {l : Location} (h : t.entry? l = some .directory) :
      t'.entry? l = some .directory := hs.entries l _ (by simp) h
  have hlink {l : Location} {target : String} (h : t.entry? l = some (.link target)) :
      t'.entry? l = some (.link target) := hs.entries l _ (by simp) h
  generalize hl : Landing.taken location .directory = landing at h ⊢
  induction h with
  | stop links here => exact .stop links here
  | skip empty _ ih => exact .skip empty (ih hl)
  | up _ ih => exact .up (ih hl)
  | free => cases hl
  | into sought found _ ih => exact .into sought (hdirectory found) (ih hl)
  | link sought found followed _ ih => exact .link sought (hlink found) followed (ih hl)
  | stay => cases hl
  | last _ _ nodir =>
    cases hl
    exact absurd rfl nodir

/-! ### Paths below a directory -/

/-- Names after those that lead to a directory are followed from there, with the links that are
left. The names must not be a slash alone, which would be at the end of the path. -/
theorem Follows.walk_append {more : List String}
    (h : t.Follows ⟨true, false⟩ links here way (.taken location .directory))
    (hmore : more ≠ [] ∧ more ≠ [""]) : ∃ left, ∀ purpose,
      t.walk purpose links here (way ++ more) = t.walk purpose left location more := by
  -- so no name is the last one any more, and none has but a slash after it
  have hne (way : List String) : way ++ more ≠ [] := by simp [hmore.1]
  have hslash (way : List String) : way ++ more ≠ [""] := by
    intro h
    rcases way with _ | ⟨name, way⟩
    · exact hmore.2 h
    · exact hne way (List.cons.inj h).2
  have hsought {name : String} {way : List String} (h : Sought ⟨true, false⟩ name way)
      (purpose : Purpose) : Sought purpose name (way ++ more) :=
    ⟨h.full, h.down, h.short, fun h => hslash way h.2⟩
  generalize hl : Landing.taken location .directory = landing at h
  induction h with
  | stop links here =>
    cases hl
    exact ⟨links, fun _ => rfl⟩
  | skip empty _ ih =>
    obtain ⟨left, hleft⟩ := ih hl
    refine ⟨left, fun purpose => ?_⟩
    rw [List.cons_append, walk, if_pos (by simpa using empty), hleft]
  | up _ ih =>
    obtain ⟨left, hleft⟩ := ih hl
    refine ⟨left, fun purpose => ?_⟩
    rw [List.cons_append, walk, if_neg (by decide), if_pos rfl, hleft]
  | free => cases hl
  | into sought found _ ih =>
    obtain ⟨left, hleft⟩ := ih hl
    refine ⟨left, fun purpose => ?_⟩
    rw [List.cons_append, (hsought sought purpose).walk_eq, found]
    exact hleft purpose
  | @link links here name target way landing sought found _ _ ih =>
    obtain ⟨left, hleft⟩ := ih hl
    refine ⟨left, fun purpose => ?_⟩
    have hlast : ((way ++ more).isEmpty && !purpose.followsLast) = false := by
      simp [hmore.1]
    rw [List.cons_append, (hsought sought purpose).walk_eq, found]
    simp only [hlast, Bool.false_eq_true, if_false]
    rw [← List.append_assoc, hleft]
  | stay _ _ unfollowed => cases unfollowed
  | last _ _ nodir =>
    cases hl
    exact absurd rfl nodir

/-- What leads to a directory leads to an entry also if a link that comes last is not followed. -/
theorem Follows.exists_taken
    (h : t.Follows ⟨true, false⟩ links here way (.taken location .directory)) :
    ∃ location e, t.Follows ⟨false, false⟩ links here way (.taken location e) := by
  generalize hl : Landing.taken location .directory = landing at h
  induction h with
  | stop links here => exact ⟨_, _, .stop links here⟩
  | skip empty _ ih =>
    obtain ⟨l, e, h⟩ := ih hl
    exact ⟨l, e, .skip empty h⟩
  | up _ ih =>
    obtain ⟨l, e, h⟩ := ih hl
    exact ⟨l, e, .up h⟩
  | free => cases hl
  | into sought found _ ih =>
    obtain ⟨l, e, h⟩ := ih hl
    exact ⟨l, e, .into (sought.lookup false) found h⟩
  | @link links here name target way _ sought found _ _ ih =>
    by_cases hlast : way = []
    · -- the walk ends at the link itself, which is an entry too
      subst hlast
      exact ⟨_, _, .stay (sought.lookup false) found rfl⟩
    · obtain ⟨l, e, h⟩ := ih hl
      exact ⟨l, e, .link (sought.lookup false) found (Or.inl hlast) h⟩
  | stay _ _ unfollowed => cases unfollowed
  | last _ _ nodir =>
    cases hl
    exact absurd rfl nodir

/-- A slash at the end makes no difference to what a path leads to. -/
theorem Follows.of_slash
    (h : t.Follows ⟨true, false⟩ links here (way ++ [""]) landing) :
    t.Follows ⟨true, false⟩ links here way landing := by
  -- a name that is sought is not empty, so it is not the one at the end
  have hone {name : String} {way way' : List String} (h : Sought ⟨true, false⟩ name way') :
      way ++ [""] ≠ [name] := by
    intro hway
    have hlast := congrArg List.getLast? hway
    simp at hlast
    exact h.full (Or.inl hlast)
  generalize hway : way ++ [""] = names at h
  induction h generalizing way with
  | stop => simp at hway
  | skip empty rest ih =>
    rcases way with _ | ⟨name, way⟩
    · obtain ⟨rfl, rfl⟩ := List.cons.inj hway
      exact rest
    · obtain ⟨rfl, rfl⟩ := List.cons.inj hway
      exact .skip empty (ih rfl)
  | up _ ih =>
    rcases way with _ | ⟨name, way⟩
    · simp at hway
    · obtain ⟨rfl, rfl⟩ := List.cons.inj hway
      exact .up (ih rfl)
  | into sought found _ ih =>
    rcases way with _ | ⟨name, way⟩
    · obtain ⟨rfl, -⟩ := List.cons.inj hway
      exact absurd (Or.inl rfl) sought.full
    · obtain ⟨rfl, rfl⟩ := List.cons.inj hway
      exact .into (sought.lookup true) found (ih rfl)
  | link sought found followed _ ih =>
    rcases way with _ | ⟨name, way⟩
    · obtain ⟨rfl, -⟩ := List.cons.inj hway
      exact absurd (Or.inl rfl) sought.full
    · obtain ⟨rfl, rfl⟩ := List.cons.inj hway
      exact .link (sought.lookup true) found (Or.inr rfl) (ih (List.append_assoc ..))
  | free sought => exact absurd hway (hone sought)
  | stay sought => exact absurd hway (hone sought)
  | last sought => exact absurd hway (hone sought)

end Scaffold.FileTree
