import Scaffold.Text.Casing

/-!
The casings of ASCII texts.

On ASCII each casing maps character by character, and all that it changes is the case of letters.
So what does not depend on case is the same before and after.
-/
namespace Scaffold.Text

variable {s : String} {c : Char} {cs : List Char}

/-- What holds of the first 128 characters holds of every ASCII character. -/
theorem forall_ascii {p : Char → Prop} (h : ∀ n < 128, p (Char.ofNat n)) (hc : isAscii c = true) :
    p c := by
  have hlt : c.toNat < 128 := of_decide_eq_true hc
  have hp := h c.toNat hlt
  rwa [Char.ofNat_toNat] at hp

theorem toLower_toUpper (hc : isAscii c = true) : c.toUpper.toLower = c.toLower :=
  forall_ascii (p := fun c => c.toUpper.toLower = c.toLower) (by decide) hc

theorem toLower_toLower (hc : isAscii c = true) : c.toLower.toLower = c.toLower :=
  forall_ascii (p := fun c => c.toLower.toLower = c.toLower) (by decide) hc

theorem toUpper_toLower (hc : isAscii c = true) : c.toLower.toUpper = c.toUpper :=
  forall_ascii (p := fun c => c.toLower.toUpper = c.toUpper) (by decide) hc

/-- On ASCII, a run of `title` is a row of letters. -/
theorem isRunLetter_ascii (hc : isAscii c = true) : isRunLetter c = c.isAlpha :=
  forall_ascii (p := fun c => isRunLetter c = c.isAlpha) (by decide) hc

theorem toLower_not_ascii (hc : isAscii c ≠ true) : c.toLower = c := by
  have hlarge : 128 ≤ c.toNat := Nat.le_of_not_lt fun hlt => hc (decide_eq_true hlt)
  refine dif_neg ?_
  rintro ⟨-, hle⟩
  have hsmall : c.toNat ≤ 90 := hle
  omega

/-- A test that is blind to the case of ASCII letters is blind to case. -/
theorem blind_of_ascii {α : Type} [DecidableEq α] {p : Char → α}
    (h : ∀ n < 128, p (Char.ofNat n).toLower = p (Char.ofNat n)) (c : Char) :
    p c.toLower = p c := by
  by_cases hc : isAscii c = true
  · exact forall_ascii (p := fun c => p c.toLower = p c) h hc
  · rw [toLower_not_ascii hc]

theorem isAscii_toLower (c : Char) : isAscii c.toLower = isAscii c :=
  blind_of_ascii (by decide) c

theorem isAlpha_toLower (c : Char) : c.toLower.isAlpha = c.isAlpha :=
  blind_of_ascii (by decide) c

/-- Only letters change with the case. -/
theorem toLower_of_isAlpha_eq_false (hc : c.isAlpha = false) : c.toLower = c := by
  refine dif_neg ?_
  intro hupper
  have hletter : c.isAlpha = true := Bool.or_eq_true_iff.2 (Or.inl (decide_eq_true hupper))
  rw [hletter] at hc
  cases hc

theorem toLower_eq_self_iff (hc : isAscii c = true) : c.toLower = c ↔ c.isUpper = false :=
  forall_ascii (p := fun c => c.toLower = c ↔ c.isUpper = false) (by decide) hc

theorem upperChar_ascii (hc : isAscii c = true) : upperChar c = [c.toUpper] := if_pos hc

theorem lowerChar_ascii (hc : isAscii c = true) : lowerChar c = [c.toLower] := if_pos hc

theorem toList_upper (hs : ∀ c ∈ s.toList, isAscii c = true) :
    (upper s).toList = s.toList.map Char.toUpper := by
  have hchars : s.toList.map upperChar = s.toList.map fun c => [c.toUpper] :=
    List.map_congr_left fun c hc => upperChar_ascii (hs c hc)
  rw [upper, String.toList_ofList, List.map_eq_flatMap, List.flatMap_def, List.flatMap_def, hchars]

theorem lowerAfter_ascii (before : List Char) (hcs : ∀ c ∈ cs, isAscii c = true) :
    lowerAfter before cs = cs.map Char.toLower := by
  induction cs generalizing before with
  | nil => rfl
  | cons c cs ih =>
    obtain ⟨hc, hrest⟩ := List.forall_mem_cons.1 hcs
    have hsigma : c ≠ 'Σ' := by
      rintro rfl
      revert hc
      decide
    rw [lowerAfter, if_neg hsigma, lowerChar_ascii hc, ih _ hrest]
    rfl

theorem toList_lower (hs : ∀ c ∈ s.toList, isAscii c = true) :
    (lower s).toList = s.toList.map Char.toLower := by
  rw [lower, String.toList_ofList, lowerAfter_ascii [] hs]

/-- A name is in lower case just if it has no letter in upper case. -/
theorem lower_eq_self_iff (hs : ∀ c ∈ s.toList, isAscii c = true) :
    lower s = s ↔ ∀ c ∈ s.toList, c.isUpper = false := by
  have hself : s.toList.map Char.toLower = s.toList ↔ ∀ c ∈ s.toList, c.toLower = c := by
    simpa using List.map_eq_map_iff (f := Char.toLower) (g := id) (l := s.toList)
  rw [← String.toList_inj, toList_lower hs, hself]
  exact forall₂_congr fun c hc => toLower_eq_self_iff (hs c hc)

theorem map_toLower_titleFrom (inRun : Bool) (hcs : ∀ c ∈ cs, isAscii c = true) :
    (titleFrom inRun cs).map Char.toLower = cs.map Char.toLower := by
  -- within a run or not, the character that is written is the one that was read up to its case
  induction cs generalizing inRun with
  | nil => rfl
  | cons c cs ih =>
    obtain ⟨hc, hrest⟩ := List.forall_mem_cons.1 hcs
    rw [titleFrom]
    split
    · cases inRun with
      | true => simp [lowerChar_ascii hc, toLower_toLower hc, ih true hrest]
      | false => simp [upperChar_ascii hc, toLower_toUpper hc, ih true hrest]
    · simp [ih false hrest]

/-- What `titleFrom` writes depends on its text up to case alone. -/
theorem titleFrom_map_toLower (inRun : Bool) (hcs : ∀ c ∈ cs, isAscii c = true) :
    titleFrom inRun (cs.map Char.toLower) = titleFrom inRun cs := by
  -- the case of a letter decides neither where a run ends nor what is written for the letter
  induction cs generalizing inRun with
  | nil => rfl
  | cons c cs ih =>
    obtain ⟨hc, hrest⟩ := List.forall_mem_cons.1 hcs
    have hlow : isAscii c.toLower = true := (isAscii_toLower c).trans hc
    rw [List.map_cons, titleFrom, titleFrom, isRunLetter_ascii hlow, isRunLetter_ascii hc,
      isAlpha_toLower]
    split
    · rw [ih true hrest, lowerChar_ascii hlow, lowerChar_ascii hc, upperChar_ascii hlow,
        upperChar_ascii hc, toLower_toLower hc, toUpper_toLower hc]
    · next hletter =>
      have hsame : c.toLower = c := toLower_of_isAlpha_eq_false ((Bool.not_eq_true _).mp hletter)
      rw [hsame, ih false hrest]

/-! ### Texts that differ in case alone -/

/-- The same text, but for the case of ASCII letters. -/
def Alike (s s' : String) : Prop := s'.toList.map Char.toLower = s.toList.map Char.toLower

theorem alike_upper (hs : ∀ c ∈ s.toList, isAscii c = true) : Alike s (upper s) := by
  rw [Alike, toList_upper hs, List.map_map]
  exact List.map_congr_left fun c hc => toLower_toUpper (hs c hc)

theorem alike_lower (hs : ∀ c ∈ s.toList, isAscii c = true) : Alike s (lower s) := by
  rw [Alike, toList_lower hs, List.map_map]
  exact List.map_congr_left fun c hc => toLower_toLower (hs c hc)

theorem alike_title (hs : ∀ c ∈ s.toList, isAscii c = true) : Alike s (title s) := by
  rw [Alike, title, String.toList_ofList]
  exact map_toLower_titleFrom false hs

theorem Alike.append {s s' : String} (h : Alike s s') (x : String) : Alike (s ++ x) (s' ++ x) := by
  rw [Alike, String.toList_append, String.toList_append, List.map_append, List.map_append, h]

end Scaffold.Text
