import Scaffold.Text.Casing

/-!
Titles, one run of letters after the other.

All that a title knows of the characters before is if the last of them was a letter. Any other
character therefore parts a text into two that are cased for themselves, and within a run only the
first letter goes to upper case. No other casing does both.
-/
namespace Scaffold.Text

variable {c : Char} {cs : List Char} {f : String → String}

/-- A casing that goes by runs of letters. -/
structure CasesRuns (f : String → String) : Prop where
  empty : f "" = ""
  apart : ∀ (s t : String) (c : Char), isLowercase c = false → isUppercase c = false →
    f (s ++ String.singleton c ++ t) = f s ++ String.singleton c ++ f t
  run : ∀ (c : Char) (cs : List Char),
    (∀ d ∈ c :: cs, isLowercase d = true ∨ isUppercase d = true) →
      f (String.ofList (c :: cs)) = String.ofList (upperChar c ++ cs.flatMap lowerChar)

theorem isRunLetter_iff : isRunLetter c = true ↔ isLowercase c = true ∨ isUppercase c = true :=
  Bool.or_eq_true_iff

theorem isRunLetter_eq_false_iff :
    isRunLetter c = false ↔ isLowercase c = false ∧ isUppercase c = false :=
  Bool.or_eq_false_iff

/-! ### Titles -/

/-- Whether a run goes on after some characters. -/
def runsOn (inRun : Bool) : List Char → Bool
  | [] => inRun
  | c :: cs => runsOn (isRunLetter c) cs

theorem titleFrom_append (inRun : Bool) (before after : List Char) :
    titleFrom inRun (before ++ after) =
      titleFrom inRun before ++ titleFrom (runsOn inRun before) after := by
  -- what has been written for the characters before does not matter, only what the last one leaves
  induction before generalizing inRun with
  | nil => rfl
  | cons c before ih =>
    rw [List.cons_append, titleFrom, titleFrom, runsOn]
    cases hc : isRunLetter c with
    | true => rw [if_pos rfl, if_pos rfl, ih, List.append_assoc]
    | false => rw [if_neg Bool.false_ne_true, if_neg Bool.false_ne_true, ih, List.cons_append]

theorem titleFrom_apart (inRun : Bool) (hc : isRunLetter c = false) (after : List Char) :
    titleFrom inRun (c :: after) = c :: titleFrom false after := by
  rw [titleFrom, hc, if_neg Bool.false_ne_true]

theorem titleFrom_run (hcs : ∀ c ∈ cs, isRunLetter c = true) :
    titleFrom true cs = cs.flatMap lowerChar := by
  induction cs with
  | nil => rfl
  | cons c cs ih =>
    obtain ⟨hc, hrest⟩ := List.forall_mem_cons.1 hcs
    rw [titleFrom, if_pos hc, if_pos rfl, ih hrest, List.flatMap_cons]

theorem title_apart (hc : isRunLetter c = false) (s t : String) :
    title (s ++ String.singleton c ++ t) = title s ++ String.singleton c ++ title t := by
  apply String.toList_inj.1
  simp only [title, String.toList_append, String.toList_ofList, String.toList_singleton,
    List.append_assoc, List.singleton_append]
  rw [titleFrom_append, titleFrom_apart _ hc]

theorem title_run (h : ∀ d ∈ c :: cs, isRunLetter d = true) :
    title (String.ofList (c :: cs)) = String.ofList (upperChar c ++ cs.flatMap lowerChar) := by
  obtain ⟨hc, hcs⟩ := List.forall_mem_cons.1 h
  rw [title, String.toList_ofList, titleFrom, if_pos hc, if_neg Bool.false_ne_true,
    titleFrom_run hcs]

theorem casesRuns_title : CasesRuns title where
  empty := rfl
  apart s t _ hl hu := title_apart (isRunLetter_eq_false_iff.2 ⟨hl, hu⟩) s t
  run _ _ h := title_run fun d hd => isRunLetter_iff.2 (h d hd)

/-! ### Casings by runs -/

theorem letters_or_apart (cs : List Char) : (∀ d ∈ cs, isRunLetter d = true) ∨
    ∃ before c after, cs = before ++ c :: after ∧ isRunLetter c = false := by
  cases hall : cs.all isRunLetter with
  | true => exact Or.inl (List.all_eq_true.1 hall)
  | false =>
    obtain ⟨c, hmem, hc⟩ := List.all_eq_false.1 hall
    obtain ⟨before, after, hcs⟩ := List.append_of_mem hmem
    exact Or.inr ⟨before, c, after, hcs, (Bool.not_eq_true _).mp hc⟩

/-- What a casing by runs makes of a text is what a title is. -/
theorem CasesRuns.ofList_eq (h : CasesRuns f) (cs : List Char) :
    f (String.ofList cs) = title (String.ofList cs) := by
  rcases letters_or_apart cs with hall | ⟨before, c, after, rfl, hc⟩
  · cases cs with
    | nil => exact h.empty
    | cons c cs => rw [title_run hall, h.run c cs fun d hd => isRunLetter_iff.1 (hall d hd)]
  · -- both sides of the character are shorter
    have hbefore := h.ofList_eq before
    have hafter := h.ofList_eq after
    have hsplit : String.ofList (before ++ c :: after) =
        String.ofList before ++ String.singleton c ++ String.ofList after := by
      simp [← String.toList_inj]
    obtain ⟨hl, hu⟩ := isRunLetter_eq_false_iff.1 hc
    rw [hsplit, h.apart _ _ c hl hu, hbefore, hafter, title_apart hc]
termination_by cs.length
decreasing_by
  all_goals
    subst_vars
    simp only [List.length_append, List.length_cons]
    omega

/-- A title goes by runs of letters: a character that is in neither case parts it, and of letters
that stand together the first goes to upper case and the others to lower case. There is no other
casing that does so. -/
theorem title_by_runs : CasesRuns title ∧ ∀ f, CasesRuns f → f = title := by
  refine ⟨casesRuns_title, fun f hf => ?_⟩
  funext s
  have hs := hf.ofList_eq s.toList
  rwa [String.ofList_toList] at hs

/-- A letter that becomes two in upper case, a digit that parts the text, and a sigma that does not
become final at the end. -/
theorem title_by_runs_sharp :
    isLowercase '2' = false ∧ isUppercase '2' = false ∧
      (∀ d ∈ ['ß', 'A'], isLowercase d = true ∨ isUppercase d = true) ∧
      (∀ d ∈ ['Ο', 'Σ'], isLowercase d = true ∨ isUppercase d = true) ∧
      title "ßA2ΟΣ" = "SSa2Οσ" := by
  have hlower : isLowercase '2' = false := by decide
  have hupper : isUppercase '2' = false := by decide
  have hletters (cs : List Char) (h : cs.all isRunLetter = true) :
      ∀ d ∈ cs, isLowercase d = true ∨ isUppercase d = true :=
    fun d hd => isRunLetter_iff.1 (List.all_eq_true.1 h d hd)
  have hbefore := hletters ['ß', 'A'] (by decide)
  have hafter := hletters ['Ο', 'Σ'] (by decide)
  obtain ⟨-, hapart, hrun⟩ := title_by_runs.1
  refine ⟨hlower, hupper, hbefore, hafter, ?_⟩
  calc title "ßA2ΟΣ"
    _ = title "ßA" ++ "2" ++ title "ΟΣ" := hapart "ßA" "ΟΣ" '2' hlower hupper
    _ = "SSa" ++ "2" ++ "Οσ" := by
      rw [hrun 'ß' ['A'] hbefore, hrun 'Ο' ['Σ'] hafter]
      rfl
    _ = "SSa2Οσ" := rfl

end Scaffold.Text
