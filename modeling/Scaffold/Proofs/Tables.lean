import Scaffold.Table

/-!
Tables that entries are inserted into one after the other.

Inserting takes no notice of what the values are. Entries that come in ascending order end up as
they came; of others, the last one under each key remains, and what remains is sorted.
-/
namespace Scaffold.Table

variable {κ α β : Type} {cmp : κ → κ → Ordering}

theorem map_insert (f : α → β) (k : κ) (v : α) (t : List (κ × α)) :
    (insert cmp k v t).map (Prod.map id f) = insert cmp k (f v) (t.map (Prod.map id f)) := by
  induction t with
  | nil => rfl
  | cons e t ih =>
    obtain ⟨k', v'⟩ := e
    have hmap : ((k', v') :: t).map (Prod.map id f) = (k', f v') :: t.map (Prod.map id f) := rfl
    rw [hmap, insert, insert]
    rcases hk : cmp k k' with _ | _ | _
    · rfl
    · rfl
    · exact congrArg ((k', f v') :: ·) ih

/-- An entry whose key comes after all others is added at the end. -/
theorem insert_of_last {k : κ} {v : α} {t : List (κ × α)} [Std.OrientedCmp cmp]
    (h : ∀ e ∈ t, cmp e.1 k = .lt) : insert cmp k v t = t ++ [(k, v)] := by
  induction t with
  | nil => rfl
  | cons e t ih =>
    obtain ⟨he, ht⟩ := List.forall_mem_cons.1 h
    have hk : cmp k e.1 = .gt := Std.OrientedCmp.gt_iff_lt.2 he
    rw [insert, hk]
    exact congrArg (e :: ·) (ih ht)

/-- Of two values that are inserted under the same key, the second one remains. -/
theorem insert_insert (k : κ) (v w : α) (t : List (κ × α)) [Std.ReflCmp cmp] :
    insert cmp k w (insert cmp k v t) = insert cmp k w t := by
  induction t with
  | nil => simp [insert, Std.ReflCmp.compare_self]
  | cons e t ih =>
    rw [insert, insert]
    rcases hk : cmp k e.1 with _ | _ | _
    · simp [insert, Std.ReflCmp.compare_self]
    · simp [insert, hk]
    · simp [insert, hk, ih]

section

variable [Std.TransCmp cmp]

/-- Values under different keys can be inserted in either order. -/
theorem insert_comm {k k' : κ} (h : cmp k k' ≠ .eq) (v v' : α) (t : List (κ × α)) :
    insert cmp k v (insert cmp k' v' t) = insert cmp k' v' (insert cmp k v t) := by
  have hswap : cmp k' k = (cmp k k').swap := Std.OrientedCmp.eq_swap
  -- by where the first entry stands to either key
  induction t with
  | nil =>
    rcases hkk : cmp k k' with _ | _ | _
    · simp [insert, hkk, hswap]
    · exact absurd hkk h
    · simp [insert, hkk, hswap]
  | cons e t ih =>
    rcases hk : cmp k e.1 with _ | _ | _ <;> rcases hk' : cmp k' e.1 with _ | _ | _
    case lt.lt =>
      rcases hkk : cmp k k' with _ | _ | _
      · simp [insert, hk, hk', hkk, hswap]
      · exact absurd hkk h
      · simp [insert, hk, hk', hkk, hswap]
    case lt.eq =>
      have hkk : cmp k k' = .lt := Std.TransCmp.lt_of_lt_of_eq hk (Std.OrientedCmp.eq_symm hk')
      simp [insert, hk, hk', hkk, hswap]
    case lt.gt =>
      have hkk : cmp k k' = .lt := Std.TransCmp.lt_trans hk (Std.OrientedCmp.gt_iff_lt.1 hk')
      simp [insert, hk, hk', hkk, hswap]
    case eq.lt =>
      have hkk : cmp k' k = .lt := Std.TransCmp.lt_of_lt_of_eq hk' (Std.OrientedCmp.eq_symm hk)
      simp [insert, hk, hk', Std.OrientedCmp.gt_iff_lt.2 hkk]
    case eq.eq => exact absurd (Std.TransCmp.eq_trans hk (Std.OrientedCmp.eq_symm hk')) h
    case eq.gt => simp [insert, hk, hk']
    case gt.lt =>
      have hkk : cmp k' k = .lt := Std.TransCmp.lt_trans hk' (Std.OrientedCmp.gt_iff_lt.1 hk)
      simp [insert, hk, hk', Std.OrientedCmp.gt_iff_lt.2 hkk]
    case gt.eq => simp [insert, hk, hk']
    case gt.gt => simp [insert, hk, hk', ih]

/-- Keys of some sort compare as equal only if they are equal. -/
def Separates (cmp : κ → κ → Ordering) (p : κ → Prop) : Prop :=
  ∀ a b, p a → p b → cmp a b = .eq → a = b

theorem mem_insert_iff {k : κ} {v : α} {t : List (κ × α)} {e : κ × α} (ht : Ascending cmp t)
    (hkeys : ∀ a ∈ t, cmp k a.1 = .eq → k = a.1) :
    e ∈ insert cmp k v t ↔ e = (k, v) ∨ e ∈ t ∧ e.1 ≠ k := by
  induction t with
  | nil => simp [insert]
  | cons a t ih =>
    obtain ⟨hat, ht⟩ := ascending_cons.1 ht
    obtain ⟨hka, hkeys⟩ := List.forall_mem_cons.1 hkeys
    have ih := ih ht hkeys
    have hfirst : a.1 = k ↔ cmp k a.1 = .eq := by
      constructor
      · rintro rfl
        exact Std.ReflCmp.compare_self
      · intro hk
        exact (hka hk).symm
    -- no key comes again after the first, so nothing else is replaced along with it
    have hlater : cmp k a.1 ≠ .gt → ∀ b ∈ t, b.1 ≠ k := by
      rintro hk b hb rfl
      exact hk (Std.OrientedCmp.gt_iff_lt.2 (hat b hb))
    rw [insert]
    rcases hk : cmp k a.1 with _ | _ | _
    · have hne := hlater (by simp [hk])
      rw [hk] at hfirst
      grind
    · have hne := hlater (by simp [hk])
      rw [hk] at hfirst
      grind
    · rw [hk] at hfirst
      grind

/-! ### Sorted entries -/

/-- The entries in ascending order of their keys. -/
def sorted (cmp : κ → κ → Ordering) (es : List (κ × α)) : List (κ × α) :=
  es.mergeSort fun a b => (cmp a.1 b.1).isLE

theorem pairwise_sorted (es : List (κ × α)) :
    (sorted cmp es).Pairwise fun a b => (cmp a.1 b.1).isLE = true := by
  refine List.pairwise_mergeSort (fun a b c hab hbc => ?_) (fun a b => ?_) es
  · exact Std.TransCmp.isLE_trans hab hbc
  · have hswap : cmp b.1 a.1 = (cmp a.1 b.1).swap := Std.OrientedCmp.eq_swap
    rw [hswap]
    cases cmp a.1 b.1 <;> rfl

theorem ascending_sorted [Std.LawfulEqCmp cmp] {es : List (κ × α)}
    (h : (es.map Prod.fst).Nodup) : Ascending cmp (sorted cmp es) := by
  have hkeys : ((sorted cmp es).map Prod.fst).Nodup :=
    ((List.mergeSort_perm es _).map Prod.fst).nodup_iff.2 h
  have hne : (sorted cmp es).Pairwise fun a b => a.1 ≠ b.1 := List.pairwise_map.1 hkeys
  refine ((pairwise_sorted es).and hne).imp ?_
  rintro a b ⟨hle, hab⟩
  rcases hcmp : cmp a.1 b.1 with _ | _ | _
  · rfl
  · exact absurd (Std.LawfulEqCmp.eq_of_compare hcmp) hab
  · rw [hcmp] at hle
    cases hle

theorem Ascending.ext {t u : List (κ × α)} (ht : Ascending cmp t) (hu : Ascending cmp u)
    (h : ∀ e, e ∈ t ↔ e ∈ u) : t = u := by
  have hnodup {t : List (κ × α)} (ht : Ascending cmp t) : t.Nodup := by
    refine ht.imp ?_
    rintro a b hab rfl
    exact Std.OrientedCmp.not_lt_of_lt hab hab
  refine List.Perm.eq_of_pairwise ?_ ht hu
    ((List.perm_ext_iff_of_nodup (hnodup ht) (hnodup hu)).2 h)
  intro a b _ _ hab hba
  exact absurd hba (Std.OrientedCmp.not_lt_of_lt hab)

/-- What is found under a key is the value of the entry with an equal key. -/
theorem find?_eq_some_iff {k : κ} {v : α} {t : List (κ × α)} (ht : Ascending cmp t) :
    find? cmp k t = some v ↔ ∃ k', cmp k k' = .eq ∧ (k', v) ∈ t := by
  induction t with
  | nil => simp [find?]
  | cons e t ih =>
    obtain ⟨he, ht⟩ := ascending_cons.1 ht
    rw [find?]
    split
    · next hk =>
      -- no key after the first is equal to it
      have hlater : ∀ k', cmp k k' = .eq → (k', v) ∉ t := by
        intro k' hk' hmem
        have hlt := he _ hmem
        rw [Std.TransCmp.congr_left (Std.OrientedCmp.eq_symm hk), hk'] at hlt
        cases hlt
      constructor
      · intro h
        cases h
        exact ⟨e.1, hk, List.mem_cons_self⟩
      · rintro ⟨k', hk', hmem⟩
        rcases List.mem_cons.1 hmem with rfl | hmem
        · rfl
        · exact absurd hmem (hlater k' hk')
    · next hk =>
      rw [ih ht]
      constructor
      · rintro ⟨k', hk', hmem⟩
        exact ⟨k', hk', List.mem_cons_of_mem e hmem⟩
      · rintro ⟨k', hk', hmem⟩
        rcases List.mem_cons.1 hmem with rfl | hmem
        · exact absurd hk' hk
        · exact ⟨k', hk', hmem⟩

/-- Tables in which the same is found under every key are equal. -/
theorem Ascending.ext_find? [Std.LawfulEqCmp cmp] {t u : List (κ × α)} (ht : Ascending cmp t)
    (hu : Ascending cmp u) (h : ∀ k, find? cmp k t = find? cmp k u) : t = u := by
  have hmem {t : List (κ × α)} (ht : Ascending cmp t) (e : κ × α) :
      e ∈ t ↔ find? cmp e.1 t = some e.2 := by
    rw [find?_eq_some_iff ht]
    constructor
    · intro he
      exact ⟨e.1, Std.ReflCmp.compare_self, he⟩
    · rintro ⟨k, hk, he⟩
      rwa [← Std.LawfulEqCmp.eq_of_compare hk] at he
  apply ht.ext hu
  intro e
  rw [hmem ht, hmem hu, h]

/-! ### Entries inserted in turn -/

def insertAll (cmp : κ → κ → Ordering) (t es : List (κ × α)) : List (κ × α) :=
  es.foldl (fun t e => insert cmp e.1 e.2 t) t

theorem ascending_insertAll {t : List (κ × α)} (ht : Ascending cmp t) (es : List (κ × α)) :
    Ascending cmp (insertAll cmp t es) := by
  induction es generalizing t with
  | nil => exact ht
  | cons e es ih => exact ih (ascending_insert e.1 e.2 ht)

/-- Entries under other keys can be inserted before or after. -/
theorem insertAll_comm {es es' : List (κ × α)} (h : ∀ e ∈ es, ∀ e' ∈ es', cmp e.1 e'.1 ≠ .eq)
    (t : List (κ × α)) :
    insertAll cmp (insertAll cmp t es) es' = insertAll cmp (insertAll cmp t es') es := by
  have hone {e : κ × α} {es' : List (κ × α)} (h : ∀ e' ∈ es', cmp e.1 e'.1 ≠ .eq)
      (t : List (κ × α)) : insertAll cmp (insert cmp e.1 e.2 t) es' =
        insert cmp e.1 e.2 (insertAll cmp t es') := by
    induction es' generalizing t with
    | nil => rfl
    | cons e' es' ih =>
      obtain ⟨he', h⟩ := List.forall_mem_cons.1 h
      calc insertAll cmp (insert cmp e'.1 e'.2 (insert cmp e.1 e.2 t)) es'
        _ = insertAll cmp (insert cmp e.1 e.2 (insert cmp e'.1 e'.2 t)) es' := by
          rw [insert_comm he']
        _ = insert cmp e.1 e.2 (insertAll cmp (insert cmp e'.1 e'.2 t) es') := ih h _
  induction es generalizing t with
  | nil => rfl
  | cons e es ih =>
    obtain ⟨he, h⟩ := List.forall_mem_cons.1 h
    calc insertAll cmp (insertAll cmp (insert cmp e.1 e.2 t) es) es'
      _ = insertAll cmp (insertAll cmp (insert cmp e.1 e.2 t) es') es := ih h _
      _ = insertAll cmp (insert cmp e.1 e.2 (insertAll cmp t es')) es := by rw [hone he]

section

variable [DecidableEq κ]

/-- The entries without those whose key comes again. -/
def lasts : List (κ × α) → List (κ × α)
  | [] => []
  | e :: es => if e.1 ∈ es.map Prod.fst then lasts es else e :: lasts es

theorem map_lasts (f : α → β) (es : List (κ × α)) :
    (lasts es).map (Prod.map id f) = lasts (es.map (Prod.map id f)) := by
  induction es with
  | nil => rfl
  | cons e es ih =>
    have hkeys : (es.map (Prod.map id f)).map Prod.fst = es.map Prod.fst := by
      rw [List.map_map]
      rfl
    rw [List.map_cons, lasts, lasts, hkeys]
    by_cases he : e.1 ∈ es.map Prod.fst
    · simp [he, ih]
    · simp [he, ih]

theorem lasts_sublist (es : List (κ × α)) : (lasts es).Sublist es := by
  induction es with
  | nil => exact .slnil
  | cons e es ih =>
    rw [lasts]
    split
    · exact ih.cons e
    · exact ih.cons_cons e

theorem nodup_lasts (es : List (κ × α)) : ((lasts es).map Prod.fst).Nodup := by
  induction es with
  | nil => exact List.nodup_nil
  | cons e es ih =>
    rw [lasts]
    split
    · exact ih
    · next he =>
      have hnew : e.1 ∉ (lasts es).map Prod.fst :=
        fun hmem => he (((lasts_sublist es).map Prod.fst).subset hmem)
      exact List.nodup_cons.2 ⟨hnew, ih⟩

/-- Every key has a last entry. -/
theorem mem_keys_lasts {k : κ} {es : List (κ × α)} :
    k ∈ (lasts es).map Prod.fst ↔ k ∈ es.map Prod.fst := by
  induction es with
  | nil => rfl
  | cons e es ih =>
    rw [lasts]
    split
    · next he =>
      rw [ih, List.map_cons, List.mem_cons]
      constructor
      · exact Or.inr
      · rintro (rfl | hk)
        · exact he
        · exact hk
    · rw [List.map_cons, List.map_cons, List.mem_cons, List.mem_cons, ih]

/-- What is left of entries inserted in turn, and of what was there before. -/
theorem mem_insertAll {p : κ → Prop} (hp : Separates cmp p) {t es : List (κ × α)} {e : κ × α}
    (ht : Ascending cmp t) (hkeys : ∀ a ∈ t, p a.1) (hes : ∀ a ∈ es, p a.1) :
    e ∈ insertAll cmp t es ↔ e ∈ lasts es ∨ e ∈ t ∧ e.1 ∉ es.map Prod.fst := by
  induction es generalizing t with
  | nil => simp [insertAll, lasts]
  | cons a es ih =>
    obtain ⟨hpa, hes⟩ := List.forall_mem_cons.1 hes
    have hmem {e : κ × α} : e ∈ insert cmp a.1 a.2 t ↔ e = (a.1, a.2) ∨ e ∈ t ∧ e.1 ≠ a.1 :=
      mem_insert_iff ht fun b hb => hp a.1 b.1 hpa (hkeys b hb)
    have hinserted : ∀ b ∈ insert cmp a.1 a.2 t, p b.1 := by
      intro b hb
      rcases hmem.1 hb with rfl | ⟨hb, -⟩
      · exact hpa
      · exact hkeys b hb
    have hinsert : insertAll cmp t (a :: es) = insertAll cmp (insert cmp a.1 a.2 t) es := rfl
    rw [hinsert, ih (ascending_insert a.1 a.2 ht) hinserted hes, hmem, List.map_cons,
      List.mem_cons, lasts]
    by_cases ha : a.1 ∈ es.map Prod.fst
    · -- the key comes again, so the entry does not remain
      rw [if_pos ha]
      constructor
      · rintro (he | ⟨rfl | ⟨he, hne⟩, hes⟩)
        · exact Or.inl he
        · exact absurd ha hes
        · exact Or.inr ⟨he, not_or.2 ⟨hne, hes⟩⟩
      · rintro (he | ⟨he, hes⟩)
        · exact Or.inl he
        · exact Or.inr ⟨Or.inr ⟨he, (not_or.1 hes).1⟩, (not_or.1 hes).2⟩
    · rw [if_neg ha, List.mem_cons]
      constructor
      · rintro (he | ⟨rfl | ⟨he, hne⟩, hes⟩)
        · exact Or.inl (Or.inr he)
        · exact Or.inl (Or.inl rfl)
        · exact Or.inr ⟨he, not_or.2 ⟨hne, hes⟩⟩
      · rintro ((rfl | he) | ⟨he, hes⟩)
        · exact Or.inr ⟨Or.inl rfl, ha⟩
        · exact Or.inl he
        · exact Or.inr ⟨Or.inr ⟨he, (not_or.1 hes).1⟩, (not_or.1 hes).2⟩

/-- What is left of entries inserted in turn is the last one under each key, sorted. -/
theorem insertAll_nil [Std.LawfulEqCmp cmp] (es : List (κ × α)) :
    insertAll cmp [] es = sorted cmp (lasts es) := by
  have hleft : Ascending cmp (insertAll cmp [] es) := ascending_insertAll ascending_nil es
  refine hleft.ext (ascending_sorted (nodup_lasts es)) ?_
  intro e
  have hlawful : Separates cmp fun _ => True := fun a b _ _ h => Std.LawfulEqCmp.eq_of_compare h
  rw [mem_insertAll hlawful ascending_nil (List.forall_mem_nil _) (fun _ _ => trivial), sorted,
    List.mem_mergeSort]
  simp

end

end

end Scaffold.Table
