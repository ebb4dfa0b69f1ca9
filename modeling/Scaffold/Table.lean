/-!
Association lists kept in strictly ascending order of their keys, for any order on keys.

A key that is inserted again keeps the place and the spelling it had and takes the new value.
-/
namespace Scaffold.Table

variable {κ α : Type}

/-- Every key comes strictly before all later ones. -/
def Ascending (cmp : κ → κ → Ordering) (t : List (κ × α)) : Prop :=
  t.Pairwise fun a b => cmp a.1 b.1 = .lt

def find? (cmp : κ → κ → Ordering) (k : κ) : List (κ × α) → Option α
  | [] => none
  | (k', v) :: rest => if cmp k k' = .eq then some v else find? cmp k rest

def insert (cmp : κ → κ → Ordering) (k : κ) (v : α) : List (κ × α) → List (κ × α)
  | [] => [(k, v)]
  | (k', v') :: rest =>
    match cmp k k' with
    | .lt => (k, v) :: (k', v') :: rest
    | .eq => (k', v) :: rest
    | .gt => (k', v') :: insert cmp k v rest

variable {cmp : κ → κ → Ordering}

@[simp] theorem ascending_nil : Ascending cmp ([] : List (κ × α)) := List.Pairwise.nil

@[simp] theorem ascending_cons {e : κ × α} {t : List (κ × α)} :
    Ascending cmp (e :: t) ↔ (∀ b ∈ t, cmp e.1 b.1 = .lt) ∧ Ascending cmp t :=
  List.pairwise_cons

theorem mem_of_find? {k : κ} {v : α} {t : List (κ × α)} (h : find? cmp k t = some v) :
    ∃ k', (k', v) ∈ t := by
  induction t with
  | nil => cases h
  | cons e t ih =>
    rw [find?] at h
    split at h
    · cases h
      exact ⟨e.1, List.mem_cons_self⟩
    · obtain ⟨k', hmem⟩ := ih h
      exact ⟨k', List.mem_cons_of_mem e hmem⟩

/-- An entry after an insertion was there before, or has the new value under an equal key. -/
theorem mem_insert {k : κ} {v : α} {t : List (κ × α)} {e : κ × α} [Std.ReflCmp cmp]
    (h : e ∈ insert cmp k v t) : e ∈ t ∨ (cmp k e.1 = .eq ∧ e.2 = v) := by
  induction t with
  | nil =>
    rw [insert, List.mem_singleton] at h
    subst h
    exact Or.inr ⟨Std.ReflCmp.compare_self, rfl⟩
  | cons a t ih =>
    rw [insert] at h
    split at h
    · rcases List.mem_cons.1 h with h | h
      · subst h
        exact Or.inr ⟨Std.ReflCmp.compare_self, rfl⟩
      · exact Or.inl h
    · next hk =>
      rcases List.mem_cons.1 h with h | h
      · subst h
        exact Or.inr ⟨hk, rfl⟩
      · exact Or.inl (List.mem_cons_of_mem _ h)
    · rcases List.mem_cons.1 h with h | h
      · subst h
        exact Or.inl List.mem_cons_self
      · exact (ih h).imp (List.mem_cons_of_mem _) id

/-- Under a key that is equal to none before, an entry is added. -/
theorem mem_insert_of_new {k : κ} {v : α} {t : List (κ × α)} {e : κ × α}
    (hnew : ∀ a ∈ t, cmp k a.1 ≠ .eq) : e ∈ insert cmp k v t ↔ e = (k, v) ∨ e ∈ t := by
  induction t with
  | nil => simp [insert]
  | cons a t ih =>
    obtain ⟨ha, ht⟩ := List.forall_mem_cons.1 hnew
    rw [insert]
    split
    · exact List.mem_cons
    · next hk => exact absurd hk ha
    · rw [List.mem_cons, List.mem_cons, ih ht]
      exact or_left_comm

theorem ascending_insert [Std.TransCmp cmp] {t : List (κ × α)} (k : κ) (v : α)
    (ht : Ascending cmp t) : Ascending cmp (insert cmp k v t) := by
  induction t with
  | nil => simp [insert]
  | cons a t ih =>
    obtain ⟨hat, ht⟩ := ascending_cons.1 ht
    rw [insert]
    split
    · next hk =>
      refine ascending_cons.2 ⟨?_, ascending_cons.2 ⟨hat, ht⟩⟩
      intro b hb
      rcases List.mem_cons.1 hb with hb | hb
      · subst hb
        exact hk
      · exact Std.TransCmp.lt_trans hk (hat b hb)
    · exact ascending_cons.2 ⟨hat, ht⟩
    · next hk =>
      refine ascending_cons.2 ⟨?_, ih ht⟩
      intro b hb
      have hak : cmp a.1 k = .lt := Std.OrientedCmp.gt_iff_lt.1 hk
      rcases mem_insert hb with hb | ⟨hb, _⟩
      · exact hat b hb
      · exact Std.TransCmp.lt_of_lt_of_eq hak hb

/-- An insertion is seen under all keys that are equal to the one inserted, and under no other. -/
theorem find?_insert [Std.TransCmp cmp] (k q : κ) (v : α) (t : List (κ × α)) :
    find? cmp q (insert cmp k v t) = if cmp q k = .eq then some v else find? cmp q t := by
  induction t with
  | nil => rfl
  | cons e t ih =>
    obtain ⟨k', v'⟩ := e
    rw [insert]
    split
    · rfl
    · next hk =>
      have hiff : cmp q k' = .eq ↔ cmp q k = .eq := by
        rw [Std.TransCmp.congr_right hk]
      by_cases hq : cmp q k = .eq
      · rw [find?, if_pos (hiff.2 hq), if_pos hq]
      · rw [find?, if_neg (mt hiff.1 hq), if_neg hq, find?, if_neg (mt hiff.1 hq)]
    · next hk =>
      rw [find?, find?, ih]
      by_cases hq : cmp q k = .eq
      · have hne : cmp q k' ≠ .eq := by
          rw [Std.TransCmp.congr_left hq, hk]
          simp
        rw [if_neg hne]
        simp [hq]
      · simp [hq]

end Scaffold.Table
