import Mathlib.Data.List.Chain
import Mathlib.Data.List.Induction
import Scaffold.Proofs.Paths

/-!
The paths above a path.

A path and the text of its components have the same names, but for dots, which lead nowhere. So each
of the paths above a path has the names of the one below it except for the last.
-/
namespace Scaffold

/-- The names of a path without the dots, which lead nowhere. -/
def FileTree.turns (path : String) : List String := (names path).filter (· ≠ ".")

open FileTree (names turns)

namespace Path

variable {c : Component} {cs : List Component} {path : String}

/-! ### Single components -/

namespace Component

/-- The name of a component on the way, if it leads anywhere. -/
def turn? : Component → Option String
  | .root | .current => none
  | .parent => some ".."
  | .normal name => some name

/-- A component that is not the root, with a proper name. -/
structure Below (c : Component) : Prop where
  notRoot : c ≠ .root
  plain : ∀ name, c = .normal name → Plain name

theorem Below.names_eq (h : c.Below) : names c.name = [c.name] := by
  cases c with
  | root => exact absurd rfl h.notRoot
  | current => rfl
  | parent => rfl
  | normal name => exact FileTree.names_of_plain (h.plain name rfl)

/-- A component leads somewhere unless its name is a dot. -/
theorem Below.turn?_eq (h : c.Below) : c.turn? = if c.name = "." then none else some c.name := by
  cases c with
  | root => exact absurd rfl h.notRoot
  | current => rfl
  | parent => rfl
  | normal name => exact (if_neg (h.plain name rfl).notCurrent).symm

theorem Below.head?_name (h : c.Below) : ∃ a, a ≠ '/' ∧ c.name.toList.head? = some a := by
  cases c with
  | root => exact absurd rfl h.notRoot
  | current => exact ⟨'.', by decide, rfl⟩
  | parent => exact ⟨'.', by decide, rfl⟩
  | normal name =>
    have hplain := h.plain name rfl
    rcases hcs : name.toList with _ | ⟨a, cs⟩
    · exact absurd (String.toList_inj.1 hcs) hplain.nonempty
    · refine ⟨a, ?_, congrArg List.head? hcs⟩
      intro ha
      apply hplain.noSlash
      rw [hcs, ha]
      exact List.mem_cons_self

end Component

/-! ### The text of components -/

theorem names_intercalate (h : ∀ c ∈ cs, c.Below) :
    names ("/".intercalate (cs.map Component.name)) = cs.map Component.name := by
  -- a slash stands between two texts, so the last one is a case apart
  induction cs with
  | nil => rfl
  | cons c cs ih =>
    obtain ⟨hc, hcs⟩ := List.forall_mem_cons.1 h
    rcases cs with _ | ⟨d, cs⟩
    · rw [List.map_singleton, String.intercalate_singleton, hc.names_eq]
    · have hrest := ih hcs
      rw [List.map_cons] at hrest
      rw [List.map_cons, List.map_cons, String.intercalate_cons_cons,
        FileTree.names_append_slash, hc.names_eq, hrest]
      rfl

theorem filter_names (h : ∀ c ∈ cs, c.Below) :
    (cs.map Component.name).filter (· ≠ ".") = cs.filterMap Component.turn? := by
  induction cs with
  | nil => rfl
  | cons c cs ih =>
    obtain ⟨hc, hcs⟩ := List.forall_mem_cons.1 h
    rw [List.map_cons, List.filter_cons, List.filterMap_cons, hc.turn?_eq, ih hcs]
    by_cases hdot : c.name = "."
    · simp [hdot]
    · simp [hdot]

/-- Components as a path has them: none but the first is the root or a dot. -/
structure Formed (comps : List Component) : Prop where
  plain : ∀ name, .normal name ∈ comps → Plain name
  later : ∀ c ∈ comps.tail, c ≠ .root ∧ c ≠ .current

theorem Formed.below (h : Formed cs) (hc : c ∈ cs) (hroot : c ≠ .root) : c.Below := by
  refine ⟨hroot, ?_⟩
  intro name hname
  subst hname
  exact h.plain name hc

theorem Formed.below_tail (h : Formed (c :: cs)) : ∀ d ∈ cs, d.Below := fun d hd =>
  h.below (List.mem_cons_of_mem c hd) (h.later d hd).1

theorem Formed.below_all (h : Formed (c :: cs)) (hc : c ≠ .root) : ∀ d ∈ c :: cs, d.Below :=
  List.forall_mem_cons.2 ⟨h.below List.mem_cons_self hc, h.below_tail⟩

theorem Formed.init (h : Formed (cs ++ [c])) : Formed cs := by
  refine ⟨fun name hname => h.plain name (List.mem_append_left _ hname), ?_⟩
  intro d hd
  apply h.later
  cases cs with
  | nil => cases hd
  | cons b cs => exact List.mem_append_left _ hd

theorem ofComponents_relative (hc : c ≠ .root) :
    ofComponents (c :: cs) = "/".intercalate ((c :: cs).map Component.name) := by
  cases c with
  | root => exact absurd rfl hc
  | _ => rfl

theorem turns_ofComponents (h : Formed cs) :
    turns (ofComponents cs) = cs.filterMap Component.turn? := by
  rcases cs with _ | ⟨c, cs⟩
  · rfl
  · by_cases hc : c = .root
    · subst hc
      have hslash := FileTree.names_append_slash "" ("/".intercalate (cs.map Component.name))
      rw [String.empty_append] at hslash
      rw [turns, ofComponents, hslash, names_intercalate h.below_tail]
      exact filter_names h.below_tail
    · rw [turns, ofComponents_relative hc, names_intercalate (h.below_all hc),
        filter_names (h.below_all hc)]

theorem head?_ofComponents (h : Formed (c :: cs)) :
    ∃ a, (ofComponents (c :: cs)).toList.head? = some a ∧ (a = '/' ↔ c = .root) := by
  by_cases hc : c = .root
  · subst hc
    refine ⟨'/', ?_, iff_of_true rfl rfl⟩
    rw [ofComponents, String.toList_append]
    rfl
  · obtain ⟨a, ha, hhead⟩ := (h.below_all hc c List.mem_cons_self).head?_name
    refine ⟨a, ?_, iff_of_false ha hc⟩
    rw [ofComponents_relative hc]
    rcases cs with _ | ⟨d, cs⟩
    · rw [List.map_singleton, String.intercalate_singleton, hhead]
    · rw [List.map_cons, List.map_cons, String.intercalate_cons_cons, String.append_assoc,
        String.toList_append, List.head?_append, hhead]
      rfl

/-! ### The components of a path -/

theorem mem_laterComponents {fields : List (List Char)} (h : c ∈ laterComponents fields) :
    c = .parent ∨ ∃ f ∈ fields, c = .normal (String.ofList f) ∧
      f ≠ [] ∧ f ≠ ['.'] ∧ f ≠ ['.', '.'] := by
  obtain ⟨f, hf, hc⟩ := List.mem_filterMap.1 h
  by_cases hskip : f = [] ∨ f = ['.']
  · rw [if_pos (by simpa using hskip)] at hc
    cases hc
  · rw [if_neg (by simpa using hskip)] at hc
    obtain ⟨hfull, hdot⟩ := not_or.1 hskip
    by_cases hparent : f = ['.', '.']
    · rw [if_pos hparent] at hc
      exact Or.inl (Option.some.inj hc).symm
    · rw [if_neg hparent] at hc
      exact Or.inr ⟨f, hf, (Option.some.inj hc).symm, hfull, hdot, hparent⟩

/-- The first component apart, a path has the components of its fields. -/
theorem components_eq (path : String) : ∃ first,
    components path = first ++ laterComponents (Text.fields '/' path.toList) ∧
      (first = [] ∨ first = [.root] ∨ first = [.current]) ∧
      (isAbsolute path = true ↔ first = [.root]) := by
  by_cases habs : isAbsolute path = true
  · exact ⟨[.root], if_pos habs, Or.inr (Or.inl rfl), iff_of_true habs rfl⟩
  · by_cases hdot : (Text.fields '/' path.toList).head? = some ['.']
    · refine ⟨[.current], ?_, Or.inr (Or.inr rfl), iff_of_false habs (by simp)⟩
      rw [components]
      simp only [if_neg habs, if_pos hdot]
      rfl
    · refine ⟨[], ?_, Or.inl rfl, iff_of_false habs (by simp)⟩
      rw [components]
      simp only [if_neg habs, if_neg hdot]
      rfl

theorem formed_components (path : String) : Formed (components path) := by
  obtain ⟨first, hcomps, hfirst, -⟩ := components_eq path
  have hlater {c : Component} (hc : c ∈ laterComponents (Text.fields '/' path.toList)) :
      c ≠ .root ∧ c ≠ .current := by
    rcases mem_laterComponents hc with rfl | ⟨f, -, rfl, -⟩
    · simp
    · simp
  refine ⟨?_, ?_⟩
  · intro name hname
    rw [hcomps, List.mem_append] at hname
    rcases hname with hname | hname
    · rcases hfirst with rfl | rfl | rfl <;> simp at hname
    · rcases mem_laterComponents hname with hparent | ⟨f, hf, hnormal, hfull, hdot, hdots⟩
      · cases hparent
      · cases hnormal
        refine ⟨?_, ?_, ?_, ?_⟩
        · rw [String.toList_ofList]
          exact Text.not_mem_of_mem_fields hf
        all_goals
          intro hname
          have hchars := congrArg String.toList hname
          rw [String.toList_ofList] at hchars
          contradiction
  · intro c hc
    rw [hcomps] at hc
    rcases hfirst with rfl | rfl | rfl
    · exact hlater (List.mem_of_mem_tail hc)
    · exact hlater hc
    · exact hlater hc

/-- Empty fields and dots are passed over among the names just as among the components. -/
theorem filterMap_laterComponents (fields : List (List Char)) :
    ((fields.filter (· ≠ [])).map String.ofList).filter (· ≠ ".") =
      (laterComponents fields).filterMap Component.turn? := by
  induction fields with
  | nil => rfl
  | cons f fields ih =>
    by_cases hfull : f = []
    · subst hfull
      exact ih
    · by_cases hdot : f = ['.']
      · subst hdot
        exact ih
      · have hname : String.ofList f ≠ "." := by
          intro hname
          apply hdot
          rw [← String.toList_ofList (l := f), hname]
          rfl
        rw [List.filter_cons_of_pos (by simpa using hfull), List.map_cons,
          List.filter_cons_of_pos (by simpa using hname), ih, laterComponents, laterComponents,
          List.filterMap_cons]
        by_cases hparent : f = ['.', '.']
        · subst hparent
          rfl
        · simp [hfull, hdot, hparent, Component.turn?]

/-- The components say where a path starts and what its names are. -/
structure Spells (cs : List Component) (path : String) : Prop where
  formed : Formed cs
  absolute : isAbsolute path = true ↔ cs.head? = some .root
  turns_eq : turns path = cs.filterMap Component.turn?

theorem spells_components (path : String) : Spells (components path) path := by
  obtain ⟨first, hcomps, hfirst, habs⟩ := components_eq path
  refine ⟨formed_components path, ?_, ?_⟩
  · rw [habs, hcomps]
    rcases hfirst with rfl | rfl | rfl
    · refine iff_of_false (by simp) ?_
      intro hroot
      rcases mem_laterComponents (List.mem_of_mem_head? hroot) with h | ⟨f, -, h, -⟩
      · cases h
      · cases h
    · exact iff_of_true rfl rfl
    · exact iff_of_false (by simp) (by simp)
  · have hnone : first.filterMap Component.turn? = [] := by
      rcases hfirst with rfl | rfl | rfl <;> rfl
    rw [hcomps, List.filterMap_append, hnone, List.nil_append, turns, names,
      filterMap_laterComponents]

theorem spells_ofComponents (h : Formed cs) : Spells cs (ofComponents cs) := by
  refine ⟨h, ?_, turns_ofComponents h⟩
  rcases cs with _ | ⟨c, cs⟩
  · exact iff_of_false (by decide) (by simp)
  · obtain ⟨a, hhead, ha⟩ := head?_ofComponents h
    rw [isAbsolute, hhead]
    simpa using ha

/-! ### One path above another -/

/-- A path is the one right above another: it starts at the same place and has one name less. -/
structure Above (path parent : String) : Prop where
  nonempty : parent ≠ ""
  absolute : isAbsolute parent = isAbsolute path
  turns_eq : ∃ name, turns path = turns parent ++ [name]

theorem Spells.above (h : Spells (cs ++ [c]) path) (hcs : cs ≠ []) :
    Above path (ofComponents cs) := by
  have hinit := spells_ofComponents h.formed.init
  obtain ⟨b, bs, rfl⟩ := List.exists_cons_of_ne_nil hcs
  have hlast : c ∈ (b :: bs ++ [c]).tail := List.mem_append_right bs (List.mem_singleton_self c)
  obtain ⟨hroot, hcurrent⟩ := h.formed.later c hlast
  refine ⟨?_, ?_, ?_⟩
  · intro hempty
    obtain ⟨a, hhead, -⟩ := head?_ofComponents h.formed.init
    rw [hempty] at hhead
    cases hhead
  · rw [Bool.eq_iff_iff, hinit.absolute, h.absolute]
    rfl
  · rw [h.turns_eq, hinit.turns_eq, List.filterMap_append]
    cases c with
    | root => exact absurd rfl hroot
    | current => exact absurd rfl hcurrent
    | parent => exact ⟨"..", rfl⟩
    | normal name => exact ⟨name, rfl⟩

/-- The texts of what comes before the last components, as `ancestors` has them. -/
def ancestorsOf (comps : List Component) : List String :=
  (List.range (comps.length - 1)).map fun n => ofComponents (comps.take (comps.length - 1 - n))

theorem ancestorsOf_append (hcs : cs ≠ []) (c : Component) :
    ancestorsOf (cs ++ [c]) = ofComponents cs :: ancestorsOf cs := by
  obtain ⟨n, hn⟩ := Nat.exists_eq_add_one_of_ne_zero (mt List.length_eq_zero_iff.1 hcs)
  have hlength : (cs ++ [c]).length - 1 = n + 1 := by simp [hn]
  rw [ancestorsOf, hlength, List.range_succ_eq_map, List.map_cons, List.map_map]
  congr 1
  · rw [Nat.sub_zero, ← hn, List.take_left]
  · rw [ancestorsOf, hn]
    apply List.map_congr_left
    intro k hk
    -- so many components are taken that the last one is not among them
    have htake : n + 1 - (k + 1) ≤ cs.length := by omega
    show ofComponents ((cs ++ [c]).take (n + 1 - (k + 1))) = _
    rw [List.take_append_of_le_length htake]
    congr 2
    omega

/-- Each path above a path is the one right above the path before it. -/
theorem isChain_ancestors (path : String) : List.IsChain Above (path :: ancestors path) := by
  -- on the components, from the last one back
  have hchain (cs : List Component) (path : String) (h : Spells cs path) :
      List.IsChain Above (path :: ancestorsOf cs) := by
    induction cs using List.reverseRecOn generalizing path with
    | nil => exact .singleton path
    | append_singleton cs c ih =>
      by_cases hcs : cs = []
      · subst hcs
        exact .singleton path
      · rw [ancestorsOf_append hcs]
        exact .cons_cons (h.above hcs) (ih _ (spells_ofComponents h.formed.init))
  exact hchain _ path (spells_components path)

example : ancestors "./a//b/../" = ["./a/b", "./a", "."] := rfl

end Path

end Scaffold
