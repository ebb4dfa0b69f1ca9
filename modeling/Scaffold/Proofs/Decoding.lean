import Scaffold.Proofs.Reading

/-!
Readers that want values of some shape.

Such a reader decodes another that takes any value, if it succeeds just where the value can be
converted. From this it follows for whole arrays, objects and texts as soon as it holds of items and
members.
-/
namespace Scaffold.Json

variable {α β σ : Type} {s rest : List Char}

/-- A reader reads on just where another does and what is read can be converted. -/
def Decodes (read : Reader β) (base : Reader α) (convert : α → Option β) : Prop :=
  ∀ s y rest, read s = .ok (y, rest) ↔ ∃ x, base s = .ok (x, rest) ∧ convert x = some y

section

variable {read : Reader β} {base : Reader α} {convert : α → Option β} {fuel : Nat}

theorem Decodes.afterColon (h : Decodes read base convert) :
    Decodes (afterColon read) (afterColon base) convert := by
  intro s y rest
  simp only [Json.afterColon, bind_eq_ok_iff, h _ _ _]
  constructor
  · rintro ⟨s', hcolon, x, hx, hy⟩
    exact ⟨x, ⟨s', hcolon, hx⟩, hy⟩
  · rintro ⟨x, ⟨s', hcolon, hx⟩, hy⟩
    exact ⟨s', hcolon, x, hx, hy⟩

theorem Decodes.of_fails (h : ∀ s y rest, read s ≠ .ok (y, rest)) :
    Decodes read base fun _ => none := by
  intro s y rest
  refine iff_of_false (h s y rest) ?_
  rintro ⟨_, -, hnone⟩
  cases hnone

theorem Decodes.map {γ : Type} (h : Decodes read base convert) (f : β → γ) :
    Decodes (fun s => (read s).map fun (x, r) => (f x, r)) base
      (fun x => (convert x).map f) := by
  intro s z rest
  rw [map_eq_ok_iff]
  constructor
  · rintro ⟨⟨y, r⟩, hy, heq⟩
    cases heq
    obtain ⟨x, hx, hxy⟩ := (h _ _ _).1 hy
    exact ⟨x, hx, Option.map_eq_some_iff.2 ⟨y, hxy, rfl⟩⟩
  · rintro ⟨x, hx, hxz⟩
    obtain ⟨y, hxy, rfl⟩ := Option.map_eq_some_iff.1 hxz
    exact ⟨(y, rest), (h _ _ _).2 ⟨x, hx, hxy⟩, rfl⟩

/-- A text is decoded by decoding the value in it. -/
theorem Decodes.document (h : Decodes read base convert) {text : String} {y : β} :
    document read text = .ok y ↔ ∃ x, document base text = .ok x ∧ convert x = some y := by
  simp only [document_eq_ok_iff, h _ _ _]
  constructor
  · rintro ⟨rest, ⟨x, hx, hxy⟩, hrest⟩
    exact ⟨x, ⟨rest, hx, hrest⟩, hxy⟩
  · rintro ⟨x, ⟨rest, hx, hrest⟩, hxy⟩
    exact ⟨rest, ⟨x, hx, hxy⟩, hrest⟩

/-! ### Arrays -/

theorem mapM_cons_eq_some_iff {x : α} {xs : List α} {ys : List β} :
    (x :: xs).mapM convert = some ys ↔
      ∃ y ys', convert x = some y ∧ xs.mapM convert = some ys' ∧ ys = y :: ys' := by
  rw [List.mapM_cons]
  constructor
  · intro h
    obtain ⟨y, hy, h⟩ := Option.bind_eq_some_iff.1 h
    obtain ⟨ys', hys, h⟩ := Option.bind_eq_some_iff.1 h
    cases h
    exact ⟨y, ys', hy, hys, rfl⟩
  · rintro ⟨y, ys', hy, hys, rfl⟩
    rw [hy, hys]
    rfl

theorem mapM_string?_eq_some_iff {vs : List Json} {ss : List String} :
    vs.mapM string? = some ss ↔ vs = ss.map .string := by
  induction vs generalizing ss with
  | nil => cases ss <;> simp
  | cons v vs ih =>
    rw [mapM_cons_eq_some_iff]
    constructor
    · rintro ⟨x, ss', hv, hvs, rfl⟩
      rw [ih.1 hvs]
      cases v with
      | string s =>
        cases hv
        rfl
      | _ => cases hv
    · intro h
      cases ss with
      | nil => cases h
      | cons x ss' =>
        obtain ⟨rfl, hvs⟩ := List.cons.inj h
        exact ⟨x, ss', rfl, ih.2 hvs, rfl⟩

theorem Decodes.itemsFrom (h : Decodes read base convert) :
    Decodes (itemsFrom read fuel) (itemsFrom base fuel) (List.mapM convert) := by
  -- both read the same items, and each of them ends where the other does
  induction fuel with
  | zero =>
    intro s ys rest
    refine iff_of_false (stop_ne_ok _ _ _) ?_
    rintro ⟨_, hstop, -⟩
    exact absurd hstop (stop_ne_ok _ _ _)
  | succ fuel ih =>
    intro s ys rest
    constructor
    · intro hread
      obtain ⟨y, s', hy, hrest⟩ := itemsFrom_succ_eq_ok_iff.1 hread
      obtain ⟨x, hx, hxy⟩ := (h _ _ _).1 hy
      rcases hrest with ⟨hs, rfl⟩ | ⟨r, c, r', ys', hs, hr, hc, hys, rfl⟩
      · exact ⟨[x], itemsFrom_succ_eq_ok_iff.2 ⟨x, s', hx, Or.inl ⟨hs, rfl⟩⟩,
          mapM_cons_eq_some_iff.2 ⟨y, [], hxy, rfl, rfl⟩⟩
      · obtain ⟨xs', hxs, hxys⟩ := (ih _ _ _).1 hys
        exact ⟨x :: xs', itemsFrom_succ_eq_ok_iff.2
            ⟨x, s', hx, Or.inr ⟨r, c, r', xs', hs, hr, hc, hxs, rfl⟩⟩,
          mapM_cons_eq_some_iff.2 ⟨y, ys', hxy, hxys, rfl⟩⟩
    · rintro ⟨_, hread, hmap⟩
      obtain ⟨x, s', hx, hrest⟩ := itemsFrom_succ_eq_ok_iff.1 hread
      rcases hrest with ⟨hs, rfl⟩ | ⟨r, c, r', xs', hs, hr, hc, hxs, rfl⟩
      · obtain ⟨y, ys', hxy, hnil, rfl⟩ := mapM_cons_eq_some_iff.1 hmap
        cases hnil
        exact itemsFrom_succ_eq_ok_iff.2 ⟨y, s', (h _ _ _).2 ⟨x, hx, hxy⟩, Or.inl ⟨hs, rfl⟩⟩
      · obtain ⟨y, ys', hxy, hxys, rfl⟩ := mapM_cons_eq_some_iff.1 hmap
        exact itemsFrom_succ_eq_ok_iff.2 ⟨y, s', (h _ _ _).2 ⟨x, hx, hxy⟩,
          Or.inr ⟨r, c, r', ys', hs, hr, hc, (ih _ _ _).2 ⟨xs', hxs, hxys⟩, rfl⟩⟩

/-- An array is decoded item by item. -/
theorem Decodes.items (h : Decodes read base convert) :
    Decodes (items read) (items base) (List.mapM convert) := by
  intro s ys rest
  constructor
  · intro hread
    rcases items_eq_ok_iff.1 hread with ⟨hs, rfl⟩ | ⟨c, r, hs, hc, hys⟩
    · exact ⟨[], items_eq_ok_iff.2 (Or.inl ⟨hs, rfl⟩), rfl⟩
    · obtain ⟨xs, hxs, hxys⟩ := (h.itemsFrom _ _ _).1 hys
      exact ⟨xs, items_eq_ok_iff.2 (Or.inr ⟨c, r, hs, hc, hxs⟩), hxys⟩
  · rintro ⟨xs, hread, hxys⟩
    rcases items_eq_ok_iff.1 hread with ⟨hs, rfl⟩ | ⟨c, r, hs, hc, hxs⟩
    · cases hxys
      exact items_eq_ok_iff.2 (Or.inl ⟨hs, rfl⟩)
    · exact items_eq_ok_iff.2 (Or.inr ⟨c, r, hs, hc, (h.itemsFrom _ _ _).2 ⟨xs, hxs, hxys⟩⟩)

end

/-! ### Objects -/

section

variable {entry : σ → String → Reader σ} {step : σ → String → Json → Option σ}
  {base : Reader Json} {fuel : Nat} {soFar : List (String × Json)}

theorem eq_cons_of_reverse {m : α} {ms soFar : List α} (ms' : List α)
    (h : ms.reverse ++ soFar = ms'.reverse ++ m :: soFar) : ms = m :: ms' := by
  have happend : ms.reverse ++ soFar = (m :: ms').reverse ++ soFar := by
    rw [h, List.reverse_cons, List.append_assoc]
    rfl
  exact List.reverse_inj.1 (List.append_cancel_right happend)

theorem membersFrom_anyMember {out : List (String × Json)}
    (h : membersFrom (anyMember base) fuel soFar s = .ok (out, rest)) :
    ∃ ms : List (String × Json), out = ms.reverse ++ soFar := by
  induction fuel generalizing s soFar with
  | zero => exact absurd h (stop_ne_ok _ _ _)
  | succ fuel ih =>
    obtain ⟨key, s₁, state', s₂, -, hentry, hrest⟩ := membersFrom_succ_eq_ok_iff.1 h
    obtain ⟨v, -, rfl⟩ := anyMember_eq_ok_iff.1 hentry
    rcases hrest with ⟨-, rfl⟩ | ⟨r, r', -, -, hmore⟩
    · exact ⟨[(key, v)], rfl⟩
    · obtain ⟨ms, rfl⟩ := ih hmore
      exact ⟨(key, v) :: ms, by simp⟩

/-- What members make up, one after the other. -/
def foldMembers (step : σ → String → Json → Option σ) (state : σ)
    (ms : List (String × Json)) : Option σ :=
  ms.foldlM (fun state m => step state m.1 m.2) state

theorem foldMembers_cons_eq_some_iff {state out : σ} {key : String} {v : Json}
    {ms : List (String × Json)} : foldMembers step state ((key, v) :: ms) = some out ↔
      ∃ state', step state key v = some state' ∧ foldMembers step state' ms = some out := by
  rw [foldMembers, List.foldlM_cons]
  exact Option.bind_eq_some_iff

/-- Members are decoded whatever came before them: what those made up is the state, and their list
is in front of what any members make up. -/
theorem membersFrom_decodes
    (h : ∀ state key, Decodes (entry state key) (afterColon base) (step state key))
    (soFar : List (String × Json)) {state out : σ} :
    membersFrom entry fuel state s = .ok (out, rest) ↔
      ∃ ms, membersFrom (anyMember base) fuel soFar s = .ok (ms.reverse ++ soFar, rest) ∧
        foldMembers step state ms = some out := by
  -- the state and the members so far are two accounts of the same past, so both vary
  induction fuel generalizing s state soFar with
  | zero =>
    refine iff_of_false (stop_ne_ok _ _ _) ?_
    rintro ⟨_, hstop, -⟩
    exact absurd hstop (stop_ne_ok _ _ _)
  | succ fuel ih =>
    constructor
    · intro hread
      obtain ⟨key, s₁, state', s₂, hkey, hentry, hrest⟩ := membersFrom_succ_eq_ok_iff.1 hread
      obtain ⟨v, hv, hstep⟩ := (h _ _ _ _ _).1 hentry
      have hany : anyMember base soFar key s₁ = .ok ((key, v) :: soFar, s₂) :=
        anyMember_eq_ok_iff.2 ⟨v, hv, rfl⟩
      rcases hrest with ⟨hs, rfl⟩ | ⟨r, r', hs, hr, hmore⟩
      · exact ⟨[(key, v)],
          membersFrom_succ_eq_ok_iff.2 ⟨key, s₁, _, s₂, hkey, hany, Or.inl ⟨hs, rfl⟩⟩,
          foldMembers_cons_eq_some_iff.2 ⟨out, hstep, rfl⟩⟩
      · obtain ⟨ms, hms, hfold⟩ := (ih ((key, v) :: soFar)).1 hmore
        refine ⟨(key, v) :: ms, ?_, foldMembers_cons_eq_some_iff.2 ⟨state', hstep, hfold⟩⟩
        rw [List.reverse_cons, List.append_assoc]
        exact membersFrom_succ_eq_ok_iff.2
          ⟨key, s₁, _, s₂, hkey, hany, Or.inr ⟨r, r', hs, hr, hms⟩⟩
    · rintro ⟨ms, hread, hfold⟩
      obtain ⟨key, s₁, _, s₂, hkey, hany, hrest⟩ := membersFrom_succ_eq_ok_iff.1 hread
      obtain ⟨v, hv, rfl⟩ := anyMember_eq_ok_iff.1 hany
      rcases hrest with ⟨hs, hlast⟩ | ⟨r, r', hs, hr, hmore⟩
      · obtain rfl : ms = [(key, v)] := eq_cons_of_reverse [] hlast
        obtain ⟨state', hstep, hnil⟩ := foldMembers_cons_eq_some_iff.1 hfold
        cases hnil
        exact membersFrom_succ_eq_ok_iff.2
          ⟨key, s₁, out, s₂, hkey, (h _ _ _ _ _).2 ⟨v, hv, hstep⟩, Or.inl ⟨hs, rfl⟩⟩
      · obtain ⟨ms', hms'⟩ := membersFrom_anyMember hmore
        obtain rfl : ms = (key, v) :: ms' := eq_cons_of_reverse ms' hms'
        obtain ⟨state', hstep, hfold⟩ := foldMembers_cons_eq_some_iff.1 hfold
        rw [hms'] at hmore
        exact membersFrom_succ_eq_ok_iff.2 ⟨key, s₁, state', s₂, hkey,
          (h _ _ _ _ _).2 ⟨v, hv, hstep⟩, Or.inr ⟨r, r', hs, hr, (ih _).2 ⟨ms', hmore, hfold⟩⟩⟩

/-- An object is decoded member by member. -/
theorem members_decodes
    (h : ∀ state key, Decodes (entry state key) (afterColon base) (step state key))
    (state : σ) : Decodes (members entry state) (membersOf base) (foldMembers step state) := by
  intro s out rest
  simp only [membersOf_eq_ok_iff]
  constructor
  · intro hread
    rcases members_eq_ok_iff.1 hread with ⟨hs, rfl⟩ | ⟨r, hs, hmore⟩
    · exact ⟨[], members_eq_ok_iff.2 (Or.inl ⟨hs, rfl⟩), rfl⟩
    · obtain ⟨ms, hms, hfold⟩ := (membersFrom_decodes h []).1 hmore
      rw [List.append_nil] at hms
      exact ⟨ms, members_eq_ok_iff.2 (Or.inr ⟨r, hs, hms⟩), hfold⟩
  · rintro ⟨ms, hread, hfold⟩
    rcases members_eq_ok_iff.1 hread with ⟨hs, hnil⟩ | ⟨r, hs, hms⟩
    · obtain rfl := List.reverse_eq_nil_iff.1 hnil
      cases hfold
      exact members_eq_ok_iff.2 (Or.inl ⟨hs, rfl⟩)
    · refine members_eq_ok_iff.2 (Or.inr ⟨r, hs, (membersFrom_decodes h []).2 ⟨ms, ?_, hfold⟩⟩)
      rw [List.append_nil]
      exact hms

end

end Scaffold.Json
