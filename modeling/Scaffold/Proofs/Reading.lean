import Mathlib.Data.List.TakeWhile
import Scaffold.Json.Reader

/-!
What the readers of JSON texts accept.

What it takes to read an array, an object, a value or a whole text is stated once, as the conditions
on what is left of the text.
-/
namespace Scaffold.Json

variable {α β σ : Type} {s rest : List Char}

theorem bind_eq_ok_iff {ε : Type} {x : Except ε α} {f : α → Except ε β} {b : β} :
    x >>= f = .ok b ↔ ∃ a, x = .ok a ∧ f a = .ok b := by
  cases x with
  | error fault =>
    refine iff_of_false ?_ ?_
    · intro h
      cases h
    · rintro ⟨a, h, -⟩
      cases h
  | ok a =>
    constructor
    · intro h
      exact ⟨a, rfl, h⟩
    · rintro ⟨_, h, hf⟩
      cases h
      exact hf

theorem map_eq_ok_iff {ε : Type} {x : Except ε α} {f : α → β} {b : β} :
    x.map f = .ok b ↔ ∃ a, x = .ok a ∧ f a = b := by
  cases x <;> simp [Except.map]

@[simp] theorem stop_ne_ok (p : Problem) (r : List Char) (x : α) : stop p r ≠ .ok x := nofun

@[simp] theorem peek_ne_ok (p : Problem) (r : List Char) (x : α) : peek p r ≠ .ok x := nofun

/-! ### Blanks -/

def Blank (cs : List Char) : Prop := ∀ c ∈ cs, isBlank c = true

instance (cs : List Char) : Decidable (Blank cs) := List.decidableBAll _ cs

theorem skipBlank_append {blanks : List Char} (h : Blank blanks) (s : List Char) :
    skipBlank (blanks ++ s) = skipBlank s := List.dropWhile_append_of_pos h

theorem skipBlank_cons {c : Char} (h : isBlank c = false) (s : List Char) :
    skipBlank (c :: s) = c :: s :=
  List.dropWhile_cons_of_neg (Bool.not_eq_true _ ▸ h)

theorem skipBlank_skipBlank (s : List Char) : skipBlank (skipBlank s) = skipBlank s := by
  induction s with
  | nil => rfl
  | cons c s ih =>
    by_cases hc : isBlank c = true
    · have hskip : skipBlank (c :: s) = skipBlank s := List.dropWhile_cons_of_pos hc
      rw [hskip, ih]
    · have hskip : skipBlank (c :: s) = c :: s := List.dropWhile_cons_of_neg hc
      rw [hskip, hskip]

/-! ### Arrays -/

section

variable {item : Reader α} {fuel : Nat} {xs : List α}

/-- After an item comes the end of the array, or a comma and another item. -/
theorem itemsFrom_succ_eq_ok_iff : itemsFrom item (fuel + 1) s = .ok (xs, rest) ↔
    ∃ x s', item s = .ok (x, s') ∧
      (skipBlank s' = ']' :: rest ∧ xs = [x] ∨
        ∃ r c r' xs', skipBlank s' = ',' :: r ∧ skipBlank r = c :: r' ∧ c ≠ ']' ∧
          itemsFrom item fuel (c :: r') = .ok (xs', rest) ∧ xs = x :: xs') := by
  rw [itemsFrom, bind_eq_ok_iff]
  constructor
  · rintro ⟨⟨x, s'⟩, hx, h⟩
    refine ⟨x, s', hx, ?_⟩
    simp only [] at h
    split at h
    · exact absurd h (peek_ne_ok _ _ _)
    · next hs =>
      cases h
      exact Or.inl ⟨hs, rfl⟩
    · next r hs =>
      split at h
      · exact absurd h (peek_ne_ok _ _ _)
      · exact absurd h (peek_ne_ok _ _ _)
      · next hnil hend =>
        obtain ⟨⟨xs', rest'⟩, hrest, heq⟩ := map_eq_ok_iff.1 h
        cases heq
        -- what is left begins an item, as it is neither empty nor a closing bracket
        rcases hr : skipBlank r with _ | ⟨c, r'⟩
        · exact (hnil hr).elim
        · rw [hr] at hrest
          refine Or.inr ⟨r, c, r', xs', hs, hr, ?_, hrest, rfl⟩
          rintro rfl
          exact hend r' hr
    · exact absurd h (peek_ne_ok _ _ _)
  · rintro ⟨x, s', hx, ⟨hs, rfl⟩ | ⟨r, c, r', xs', hs, hr, hc, hrest, rfl⟩⟩
    · refine ⟨(x, s'), hx, ?_⟩
      simp only [hs]
    · refine ⟨(x, s'), hx, ?_⟩
      simp only [hs, hr]
      split
      · next heq => cases heq
      · next heq => exact absurd (List.cons.inj heq).1 hc
      · rw [hrest]
        rfl

theorem items_eq_ok_iff : items item s = .ok (xs, rest) ↔
    skipBlank s = ']' :: rest ∧ xs = [] ∨
      ∃ c r, skipBlank s = c :: r ∧ c ≠ ']' ∧
        itemsFrom item ((c :: r).length + 1) (c :: r) = .ok (xs, rest) := by
  rw [items]
  constructor
  · intro h
    split at h
    · exact absurd h (peek_ne_ok _ _ _)
    · next hs =>
      cases h
      exact Or.inl ⟨hs, rfl⟩
    · next hnil hend =>
      rcases hs : skipBlank s with _ | ⟨c, r⟩
      · exact (hnil hs).elim
      · rw [hs] at h
        refine Or.inr ⟨c, r, rfl, ?_, h⟩
        rintro rfl
        exact hend r hs
  · rintro (⟨hs, rfl⟩ | ⟨c, r, hs, hc, h⟩)
    · simp only [hs]
    · simp only [hs]
      split
      · next heq => cases heq
      · next heq => exact absurd (List.cons.inj heq).1 hc
      · exact h

end

/-! ### Objects -/

section

variable {entry : σ → String → Reader σ} {fuel : Nat} {state out : σ}

/-- After a member comes the end of the object, or a comma and another key. -/
theorem membersFrom_succ_eq_ok_iff : membersFrom entry (fuel + 1) state s = .ok (out, rest) ↔
    ∃ key s₁ state' s₂, stringBody s = .ok (key, s₁) ∧ entry state key s₁ = .ok (state', s₂) ∧
      (skipBlank s₂ = '\x7d' :: rest ∧ out = state' ∨
        ∃ r r', skipBlank s₂ = ',' :: r ∧ skipBlank r = '"' :: r' ∧
          membersFrom entry fuel state' r' = .ok (out, rest)) := by
  rw [membersFrom, bind_eq_ok_iff]
  constructor
  · rintro ⟨⟨key, s₁⟩, hkey, h⟩
    obtain ⟨⟨state', s₂⟩, hentry, h⟩ := bind_eq_ok_iff.1 h
    refine ⟨key, s₁, state', s₂, hkey, hentry, ?_⟩
    simp only [] at h
    split at h
    · exact absurd h (peek_ne_ok _ _ _)
    · next hs =>
      cases h
      exact Or.inl ⟨hs, rfl⟩
    · next r hs =>
      split at h
      · exact absurd h (peek_ne_ok _ _ _)
      · next r' hr => exact Or.inr ⟨r, r', hs, hr, h⟩
      · exact absurd h (peek_ne_ok _ _ _)
      · exact absurd h (peek_ne_ok _ _ _)
    · exact absurd h (peek_ne_ok _ _ _)
  · rintro ⟨key, s₁, state', s₂, hkey, hentry, ⟨hs, rfl⟩ | ⟨r, r', hs, hr, hrest⟩⟩
    · refine ⟨(key, s₁), hkey, bind_eq_ok_iff.2 ⟨(out, s₂), hentry, ?_⟩⟩
      simp only [hs]
    · refine ⟨(key, s₁), hkey, bind_eq_ok_iff.2 ⟨(state', s₂), hentry, ?_⟩⟩
      simp only [hs, hr, hrest]

theorem members_eq_ok_iff : members entry state s = .ok (out, rest) ↔
    skipBlank s = '\x7d' :: rest ∧ out = state ∨
      ∃ r, skipBlank s = '"' :: r ∧
        membersFrom entry (r.length + 1) state r = .ok (out, rest) := by
  rw [members]
  split
  · next hs => simp [hs]
  · next r hs => simp [hs, and_comm, eq_comm]
  · next r hs => simp [hs]
  · next hbrace hquote =>
    refine iff_of_false (peek_ne_ok _ _ _) ?_
    rintro (⟨hs, -⟩ | ⟨r, hs, -⟩)
    · exact hbrace _ hs
    · exact hquote r hs

end

/-- What comes after a key. -/
def afterColon (read : Reader α) : Reader α := fun s => do
  let s ← colon s
  read s

theorem anyMember_eq_ok_iff {base : Reader Json} {soFar out : List (String × Json)}
    {key : String} : anyMember base soFar key s = .ok (out, rest) ↔
      ∃ v, afterColon base s = .ok (v, rest) ∧ out = (key, v) :: soFar := by
  rw [anyMember, afterColon, bind_eq_ok_iff]
  simp only [bind_eq_ok_iff]
  constructor
  · rintro ⟨s', hcolon, ⟨v, r⟩, hv, h⟩
    cases h
    exact ⟨v, ⟨s', hcolon, hv⟩, rfl⟩
  · rintro ⟨v, ⟨s', hcolon, hv⟩, rfl⟩
    exact ⟨s', hcolon, (v, rest), hv, rfl⟩

/-- The members of an object in their order. -/
def membersOf (read : Reader Json) : Reader (List (String × Json)) := fun s =>
  (members (anyMember read) [] s).map fun (ms, r) => (ms.reverse, r)

theorem membersOf_eq_ok_iff {read : Reader Json} {ms : List (String × Json)} :
    membersOf read s = .ok (ms, rest) ↔
      members (anyMember read) [] s = .ok (ms.reverse, rest) := by
  rw [membersOf, map_eq_ok_iff]
  constructor
  · rintro ⟨⟨ms', r⟩, hms, heq⟩
    cases heq
    rw [List.reverse_reverse]
    exact hms
  · intro hms
    refine ⟨_, hms, ?_⟩
    simp only [List.reverse_reverse]

/-! ### Values -/

theorem lead_skipBlank (s : List Char) : lead (skipBlank s) = lead s := by
  rw [lead, lead, skipBlank_skipBlank]

theorem lead_append {blanks : List Char} (h : Blank blanks) (s : List Char) :
    lead (blanks ++ s) = lead s := by
  rw [lead, lead, skipBlank_append h]

/-- A scalar other than null. -/
def Plain : Json → Prop
  | .bool _ | .number _ | .string _ => True
  | .null | .array _ | .object _ => False

theorem lead_eq_scalar {v : Json} (h : lead s = .ok (.scalar v, rest)) :
    (v = .null ∧ ∃ r, skipBlank s = 'n' :: r ∧ word ['u', 'l', 'l'] r = .ok rest) ∨ v.Plain := by
  rw [lead] at h
  split at h
  · exact absurd h (peek_ne_ok _ _ _)
  · next r hs =>
    obtain ⟨r', hword, heq⟩ := map_eq_ok_iff.1 h
    cases heq
    exact Or.inl ⟨rfl, r, hs, hword⟩
  -- the words true and false, a string and a number with a sign
  iterate 4
    · obtain ⟨_, -, heq⟩ := map_eq_ok_iff.1 h
      cases heq
      exact Or.inr trivial
  · cases h
  · cases h
  · split at h
    · obtain ⟨_, -, heq⟩ := map_eq_ok_iff.1 h
      cases heq
      exact Or.inr trivial
    · exact absurd h (peek_ne_ok _ _ _)

theorem lead_null_iff : lead s = .ok (.scalar .null, rest) ↔
    ∃ r, skipBlank s = 'n' :: r ∧ word ['u', 'l', 'l'] r = .ok rest := by
  constructor
  · intro h
    rcases lead_eq_scalar h with ⟨-, hnull⟩ | hplain
    · exact hnull
    · exact hplain.elim
  · rintro ⟨r, hs, hword⟩
    simp only [lead, hs, hword]
    rfl

theorem value_zero_eq_ok_iff {v : Json} :
    value 0 s = .ok (v, rest) ↔ lead s = .ok (.scalar v, rest) := by
  rw [value, bind_eq_ok_iff]
  constructor
  · rintro ⟨⟨found, r⟩, hlead, h⟩
    cases found with
    | scalar v' =>
      cases h
      exact hlead
    | array => cases h
    | object => cases h
  · intro hlead
    exact ⟨_, hlead, rfl⟩

theorem value_succ_eq_ok_iff {n : Nat} {v : Json} : value (n + 1) s = .ok (v, rest) ↔
    lead s = .ok (.scalar v, rest) ∨
      (∃ r vs, lead s = .ok (.array, r) ∧ items (value n) (r.drop 1) = .ok (vs, rest) ∧
        v = .array vs) ∨
      ∃ r ms, lead s = .ok (.object, r) ∧ membersOf (value n) (r.drop 1) = .ok (ms, rest) ∧
        v = .object ms := by
  rw [value, bind_eq_ok_iff]
  constructor
  · rintro ⟨⟨found, r⟩, hlead, h⟩
    cases found with
    | scalar v' =>
      cases h
      exact Or.inl hlead
    | array =>
      obtain ⟨⟨vs, r'⟩, hitems, heq⟩ := map_eq_ok_iff.1 h
      cases heq
      exact Or.inr (Or.inl ⟨r, vs, hlead, hitems, rfl⟩)
    | object =>
      obtain ⟨⟨ms, r'⟩, hmembers, heq⟩ := map_eq_ok_iff.1 h
      cases heq
      have hmembersOf : membersOf (value n) (r.drop 1) = .ok (ms.reverse, rest) :=
        map_eq_ok_iff.2 ⟨_, hmembers, rfl⟩
      exact Or.inr (Or.inr ⟨r, ms.reverse, hlead, hmembersOf, rfl⟩)
  · rintro (hlead | ⟨r, vs, hlead, hitems, rfl⟩ | ⟨r, ms, hlead, hmembers, rfl⟩)
    · exact ⟨_, hlead, rfl⟩
    · exact ⟨_, hlead, map_eq_ok_iff.2 ⟨_, hitems, rfl⟩⟩
    · refine ⟨_, hlead, map_eq_ok_iff.2 ⟨_, membersOf_eq_ok_iff.1 hmembers, ?_⟩⟩
      simp only [List.reverse_reverse]

theorem value_eq_scalar {n : Nat} {v : Json} (hv : v = .null ∨ v.Plain) :
    value n s = .ok (v, rest) ↔ lead s = .ok (.scalar v, rest) := by
  cases n with
  | zero => exact value_zero_eq_ok_iff
  | succ n =>
    rw [value_succ_eq_ok_iff]
    constructor
    · rintro (hlead | ⟨_, _, _, _, rfl⟩ | ⟨_, _, _, _, rfl⟩)
      · exact hlead
      · rcases hv with hv | hv <;> cases hv
      · rcases hv with hv | hv <;> cases hv
    · exact Or.inl

theorem value_eq_array {n : Nat} {vs : List Json} : value (n + 1) s = .ok (.array vs, rest) ↔
    ∃ r, lead s = .ok (.array, r) ∧ items (value n) (r.drop 1) = .ok (vs, rest) := by
  rw [value_succ_eq_ok_iff]
  constructor
  · rintro (hlead | ⟨r, vs', hlead, hitems, heq⟩ | ⟨_, _, _, _, heq⟩)
    · rcases lead_eq_scalar hlead with ⟨heq, -⟩ | hplain
      · cases heq
      · exact hplain.elim
    · cases heq
      exact ⟨r, hlead, hitems⟩
    · cases heq
  · rintro ⟨r, hlead, hitems⟩
    exact Or.inr (Or.inl ⟨r, vs, hlead, hitems, rfl⟩)

theorem value_eq_object {n : Nat} {ms : List (String × Json)} :
    value (n + 1) s = .ok (.object ms, rest) ↔
      ∃ r, lead s = .ok (.object, r) ∧ membersOf (value n) (r.drop 1) = .ok (ms, rest) := by
  rw [value_succ_eq_ok_iff]
  constructor
  · rintro (hlead | ⟨_, _, _, _, heq⟩ | ⟨r, ms', hlead, hmembers, heq⟩)
    · rcases lead_eq_scalar hlead with ⟨heq, -⟩ | hplain
      · cases heq
      · exact hplain.elim
    · cases heq
    · cases heq
      exact ⟨r, hlead, hmembers⟩
  · rintro ⟨r, hlead, hmembers⟩
    exact Or.inr (Or.inr ⟨r, ms, hlead, hmembers, rfl⟩)

/-! ### Documents -/

theorem document_eq_ok_iff {read : Reader α} {text : String} {x : α} :
    document read text = .ok x ↔ ∃ rest, read text.toList = .ok (x, rest) ∧ Blank rest := by
  rw [document]
  rcases read text.toList with fault | ⟨y, r⟩
  · refine iff_of_false nofun ?_
    rintro ⟨_, h, -⟩
    cases h
  · have hblank : skipBlank r = [] ↔ Blank r := List.dropWhile_eq_nil_iff
    constructor
    · intro h
      simp only [] at h
      split at h
      · next hnil =>
        cases h
        exact ⟨r, rfl, hblank.1 hnil⟩
      · cases h
    · rintro ⟨_, h, hrest⟩
      cases h
      simp only [hblank.2 hrest]

end Scaffold.Json
