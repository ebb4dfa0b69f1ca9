import Scaffold.Proofs.Footprints

/-!
Names in ascending order.

By their bytes texts are ordered as by their code points. No two texts have the same place in this
order, so a list of names can be put into ascending order in one way only, however it is sorted. A
declaration shows its nodes in this order, and so does not tell in which one they were given.
-/
namespace Scaffold

namespace Text

variable {s t : String} {names names' : List String}

/-- The numbers of the characters of a text. -/
def codePoints (s : String) : List Nat := s.toList.map Char.toNat

theorem map_toNat_lt_iff (cs ds : List Char) :
    cs.map Char.toNat < ds.map Char.toNat ↔ cs < ds := by
  induction cs generalizing ds with
  | nil => cases ds <;> simp
  | cons c cs ih =>
    cases ds with
    | nil => simp
    | cons d ds =>
      have hlt : c.toNat < d.toNat ↔ c < d := Iff.rfl
      rw [List.map_cons, List.map_cons, List.cons_lt_cons_iff, List.cons_lt_cons_iff, ih, hlt,
        Char.toNat_inj]

/-- Bytes and code points put texts in the same order. -/
theorem bytes_lt_iff_codePoints (s t : String) : bytes s < bytes t ↔ codePoints s < codePoints t := by
  rw [bytes_lt_iff, codePoints, codePoints, map_toNat_lt_iff, String.lt_iff_toList_lt]

theorem eq_of_bytes_le (h : bytes s ≤ bytes t) (h' : bytes t ≤ bytes s) : s = t := by
  apply String.le_antisymm
  · exact (bytes_le_iff s t).1 h
  · exact (bytes_le_iff t s).1 h'

/-- Names can be put into ascending order in one way only. -/
theorem Ascending.eq_of_perm (h : Ascending names) (h' : Ascending names')
    (hperm : names.Perm names') : names = names' :=
  hperm.eq_of_pairwise (fun _ _ _ _ => eq_of_bytes_le) h h'

end Text

variable {m : Type → Type} {S : Type} {nodes nodes' : List String}

theorem sortedNodes_eq_self_iff : sortedNodes nodes = nodes ↔ Text.Ascending nodes := by
  constructor
  · intro h
    have hsorted := ascending_sortedNodes nodes
    rwa [h] at hsorted
  · intro h
    exact (ascending_sortedNodes nodes).eq_of_perm h (sortedNodes_perm nodes)

theorem sortedNodes_eq_of_perm (h : nodes'.Perm nodes) : sortedNodes nodes' = sortedNodes nodes := by
  have hperm : (sortedNodes nodes').Perm (sortedNodes nodes) :=
    ((sortedNodes_perm nodes').trans h).trans (sortedNodes_perm nodes).symm
  exact (ascending_sortedNodes nodes').eq_of_perm (ascending_sortedNodes nodes) hperm

namespace Declaration

/-- The text of a declaration is the same for any order of the nodes. -/
theorem fragments_of_perm (d : Declaration) (h : nodes'.Perm nodes) :
    { d with nodes := nodes' }.fragments = { d with nodes := nodes }.fragments := by
  have hclass : { d with nodes := nodes' }.visitorClass = { d with nodes := nodes }.visitorClass := by
    rw [visitorClass, visitorClass, sortedNodes_eq_of_perm h]
  rw [fragments, fragments, hclass]
  rfl

end Declaration

/-- Sorting keeps all names, repeated ones included, and puts them in the order of their bytes, which
is that of their code points. Names that are in this order already stay as they are. The result
depends on which names there are and not on their order, and so does the text of a declaration: any
sink is given the same texts one after the other. -/
theorem sorts_canonically [Monad m] (k : Sink m S) (nodes : List String) :
    (sortedNodes nodes).Perm nodes ∧ Text.Ascending (sortedNodes nodes) ∧
    (∀ s t, Text.bytes s < Text.bytes t ↔ Text.codePoints s < Text.codePoints t) ∧
    (sortedNodes nodes = nodes ↔ Text.Ascending nodes) ∧
    ∀ nodes', nodes'.Perm nodes → sortedNodes nodes' = sortedNodes nodes ∧
      ∀ d : Declaration, SameEmission .declaration k { d with nodes := nodes' }.asParams
        { d with nodes := nodes }.asParams := by
  refine ⟨sortedNodes_perm nodes, ascending_sortedNodes nodes, Text.bytes_lt_iff_codePoints,
    sortedNodes_eq_self_iff, ?_⟩
  intro nodes' h
  refine ⟨sortedNodes_eq_of_perm h, ?_⟩
  intro d
  have hread (d : Declaration) : Body.declaration.fragments d.asParams = .ok d.fragments :=
    (Blueprint.declaration d).fragments_asParams
  apply SameEmission.of_fragments
  rw [hread, hread, d.fragments_of_perm h]

/-- A name that is listed twice, and one past ASCII. -/
theorem sorts_canonically_repeated :
    let nodes := ["z", "A", "é", "A"]
    let nodes' := ["A", "é", "A", "z"]
    let k : Sink (StateM ScriptLog) BudgetSink := BudgetSink.sink
    let d : Declaration := ⟨"a", true, [], "G"⟩
    nodes'.Perm nodes ∧ Text.Ascending (sortedNodes nodes) ∧
      sortedNodes nodes' = sortedNodes nodes ∧
      SameEmission .declaration k { d with nodes := nodes' }.asParams
        { d with nodes := nodes }.asParams := by
  intro nodes nodes' k d
  have hperm : nodes'.Perm nodes := by decide
  obtain ⟨-, hascending, -, -, hsame⟩ := sorts_canonically k nodes
  obtain ⟨hsorted, hemission⟩ := hsame nodes' hperm
  exact ⟨hperm, hascending, hsorted, hemission d⟩

end Scaffold
