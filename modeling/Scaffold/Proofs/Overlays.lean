import Scaffold.Params.Basic
import Scaffold.Proofs.Tables

/-!
Parameters derived from others.

What is derived is told by what is found under each key: the last value that is laid over it, or
else what was there if the key is kept. So to derive twice is to keep what is kept both times, and
to lay the second values over those of the first that are kept.
-/
namespace Scaffold

namespace Table

variable {κ α : Type} [BEq κ] [LawfulBEq κ]

/-- Where only equal keys compare as equal, looking a key up does not need the order. -/
theorem find?_eq_lookup {cmp : κ → κ → Ordering} [Std.LawfulEqCmp cmp] (k : κ)
    (t : List (κ × α)) : find? cmp k t = t.lookup k := by
  induction t with
  | nil => rfl
  | cons e t ih =>
    obtain ⟨k', v⟩ := e
    rw [find?, List.lookup_cons, ih]
    by_cases hk : k = k'
    · subst hk
      rw [if_pos Std.ReflCmp.compare_self, BEq.rfl]
    · have hne : cmp k k' ≠ .eq := mt Std.LawfulEqCmp.eq_of_compare hk
      rw [if_neg hne, beq_false_of_ne hk]

/-- Entries whose keys are kept are still found, and no others are. -/
theorem lookup_filter_fst (keep : κ → Bool) (k : κ) (t : List (κ × α)) :
    (t.filter fun e => keep e.1).lookup k = if keep k then t.lookup k else none := by
  induction t with
  | nil => simp
  | cons e t ih =>
    obtain ⟨k', v⟩ := e
    rw [List.filter_cons, List.lookup_cons]
    by_cases hk : k = k'
    · subst hk
      cases hkeep : keep k with
      | true => simp
      | false => simp [ih, hkeep]
    · have hne : (k == k') = false := beq_false_of_ne hk
      cases keep k' with
      | true => simp [List.lookup_cons, hne, ih]
      | false => simp [hne, ih]

end Table

namespace Params

variable {p q : Params} {os os' : List (String × ParamValue)}

theorem get?_eq_lookup (p : Params) (k : String) : p.get? k = p.entries.lookup k :=
  Table.find?_eq_lookup k p.entries

/-- Parameters with the same values under all keys are equal. -/
theorem ext_get? (h : ∀ k, p.get? k = q.get? k) : p = q :=
  ext (p.ascending.ext_find? q.ascending h)

theorem get?_insert (p : Params) (key : String) {v : ParamValue} (hv : v.Canonical) (k : String) :
    (p.insert key v hv).get? k = if k = key then some v else p.get? k := by
  have hfind : (p.insert key v hv).get? k = if compare k key = .eq then some v else p.get? k :=
    Table.find?_insert key k v p.entries
  simp only [hfind, Std.LawfulEqCmp.compare_eq_iff_eq]

theorem get?_restrict (p : Params) (ks : List String) (k : String) :
    (p.restrict ks).get? k = if k ∈ ks then p.get? k else none := by
  rw [get?_eq_lookup, get?_eq_lookup, restrict, Table.lookup_filter_fst]
  simp only [List.contains_iff_mem]

/-- Of the values that are set under a key the last one is found. -/
theorem get?_insertAll (p : Params) (h : ∀ e ∈ os, e.2.Canonical) (k : String) :
    (p.insertAll os h).get? k = (os.reverse.lookup k).or (p.get? k) := by
  induction os generalizing p with
  | nil => rfl
  | cons e os ih =>
    obtain ⟨key, v⟩ := e
    have hone : ([(key, v)] : List (String × ParamValue)).lookup k =
        if k = key then some v else none := by
      rw [List.lookup_cons]
      by_cases hk : k = key
      · simp [hk]
      · simp [hk, beq_false_of_ne hk]
    rw [insertAll, ih, get?_insert, List.reverse_cons, List.lookup_append, Option.or_assoc, hone]
    congr 1
    split
    · rfl
    · rfl

theorem get?_derive (p : Params) (ks : List String) (h : ∀ e ∈ os, e.2.Canonical) (k : String) :
    (p.derive ks os h).get? k =
      (os.reverse.lookup k).or (if k ∈ ks then p.get? k else none) := by
  rw [derive, get?_insertAll, get?_restrict]

theorem pairwise_keys (p : Params) : p.keys.Pairwise (· < ·) := by
  rw [keys, List.pairwise_map]
  apply p.ascending.imp
  intro a b hab
  exact compareOfLessAndEq_eq_lt.1 hab

/-- The values that are laid over what is derived, if it is derived a second time. -/
theorem canonical_overlay (h : ∀ e ∈ os, e.2.Canonical) (h' : ∀ e ∈ os', e.2.Canonical)
    (ks' : List String) : ∀ e ∈ os.filter (fun e => ks'.contains e.1) ++ os', e.2.Canonical := by
  intro e he
  rcases List.mem_append.1 he with he | he
  · exact h e (List.mem_filter.1 he).1
  · exact h' e he

/-- What is found under a key after parameters have been derived is the last value laid over it, or
else what was there if the key is kept. Keys are in ascending order. What is derived a second time
can be derived at once, from the keys that are kept both times. -/
theorem derive_overlays (p : Params) (ks ks' : List String) (h : ∀ e ∈ os, e.2.Canonical)
    (h' : ∀ e ∈ os', e.2.Canonical) :
    (∀ k, (p.derive ks os h).get? k =
      (os.reverse.lookup k).or (if k ∈ ks then p.get? k else none)) ∧
    (p.derive ks os h).keys.Pairwise (· < ·) ∧
    (p.derive ks os h).derive ks' os' h' =
      p.derive (ks.filter ks'.contains) (os.filter (fun e => ks'.contains e.1) ++ os')
        (canonical_overlay h h' ks') := by
  refine ⟨p.get?_derive ks h, pairwise_keys _, ext_get? fun k => ?_⟩
  rw [get?_derive, get?_derive, get?_derive, List.reverse_append, List.lookup_append,
    ← List.filter_reverse, Table.lookup_filter_fst, Option.or_assoc]
  congr 1
  by_cases hk : k ∈ ks'
  · simp [hk]
  · simp [hk]

/-- A key that is laid over twice and then again, and one that is not kept the second time. -/
theorem derive_overlays_twice :
    let p : Params := (empty.insert "a" (.bool true)).insert "b" (.bool true)
    let os : List (String × ParamValue) := [("c", .str "x"), ("c", .str "y"), ("d", .str "z")]
    let os' : List (String × ParamValue) := [("d", .bool false)]
    ∃ (h : ∀ e ∈ os, e.2.Canonical) (h' : ∀ e ∈ os', e.2.Canonical),
      (p.derive ["b", "a", "b"] os h).get? "c" = some (.str "y") ∧
      (p.derive ["b", "a", "b"] os h).keys.Pairwise (· < ·) ∧
      (p.derive ["b", "a", "b"] os h).derive ["a", "c"] os' h' =
        p.derive ["a"] [("c", .str "x"), ("c", .str "y"), ("d", .bool false)]
          (canonical_overlay h h' ["a", "c"]) := by
  intro p os os'
  have h : ∀ e ∈ os, e.2.Canonical := by simp [os]
  have h' : ∀ e ∈ os', e.2.Canonical := by simp [os']
  obtain ⟨hget, hkeys, hderive⟩ :=
    derive_overlays p ["b", "a", "b"] ["a", "c"] h h'
  refine ⟨h, h', ?_, hkeys, hderive⟩
  rw [hget]
  rfl

end Params

end Scaffold
