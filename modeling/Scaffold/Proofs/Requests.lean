import Scaffold.Proofs.Names
import Scaffold.Proofs.Paths
import Scaffold.Proofs.Rules

/-!
What the rules of a request say about its artifacts.

Each artifact has the name of a single entry, and the texts of the two are never the same. Nothing
keeps the extensions apart, and with them the names.
-/
namespace Scaffold.Request

variable {r : Request} {params : Params}

/-- The settings of an accepted request keep their rules. -/
theorem Accepted.proper (h : r.Accepted params) : r.Proper := validate_eq_ok_iff_proper.1 h.valid

theorem Proper.extension (h : r.Proper) (kind : ArtifactKind) :
    ProperExtension (r.extension kind) := by
  cases kind with
  | declaration => exact h.declarationExt
  | definition => exact h.definitionExt

/-- The path of an artifact takes every character from the name or the extension, but for those of
the middle part. -/
theorem Accepted.isSeparator_path (h : r.Accepted params) (kind : ArtifactKind) :
    ∀ c ∈ (r.path kind).toList, isSeparator c = false := by
  have hname (c : Char) (hc : c ∈ r.name.toList) : isSeparator c = false := by
    obtain ⟨-, hslash, hbackslash⟩ := h.proper.name.solid c hc
    exact isSeparator_eq_false hslash hbackslash
  have hextension (c : Char) (hc : c ∈ (r.extension kind).toList) : isSeparator c = false := by
    obtain ⟨-, hslash, hbackslash⟩ := (h.proper.extension kind).bare c hc
    exact isSeparator_eq_false hslash hbackslash
  have hmiddle : ∀ c ∈ "_backend.".toList, isSeparator c = false := by simp [isSeparator]
  intro c hc
  rw [path, String.toList_append, String.toList_append, List.mem_append, List.mem_append] at hc
  rcases hc with (hc | hc) | hc
  · exact hname c hc
  · exact hmiddle c hc
  · exact hextension c hc

/-- An artifact has the name of a single entry. -/
theorem Accepted.plain_path (h : r.Accepted params) (kind : ArtifactKind) :
    Path.Plain (r.path kind) := by
  have hlong : 9 ≤ (r.path kind).toList.length := by
    have hmid : "_backend.".toList.length = 9 := rfl
    rw [path, String.toList_append, String.toList_append, List.length_append, List.length_append]
    omega
  refine ⟨?_, ?_, ?_, ?_⟩
  · intro hslash
    have hseparator := h.isSeparator_path kind '/' hslash
    contradiction
  all_goals
    intro hp
    rw [hp] at hlong
    contradiction

/-- Two artifacts have the same name as soon as their extensions are the same. -/
theorem path_eq_iff : r.path .declaration = r.path .definition ↔
    r.declarationExt = r.definitionExt := by
  constructor
  · intro h
    have h' := congrArg String.toList h
    simp only [path, extension, String.toList_append, List.append_cancel_left_eq] at h'
    exact String.toList_inj.1 h'
  · intro h
    rw [path, path, extension, extension, h]

/-- A declaration starts with a guard, and a definition with an include. -/
theorem text_third (r : Request) (kind : ArtifactKind) :
    (r.text kind).toList[2]? = match kind with
      | .declaration => some 'f'
      | .definition => some 'n' := by
  cases kind with
  | declaration => simp [text, fragments, Declaration.fragments, Declaration.opening]
  | definition => simp [text, fragments, Definition.fragments, Definition.opening]

theorem text_ne : r.text .declaration ≠ r.text .definition := by
  intro h
  have hdef := r.text_third .definition
  rw [← h, text_third] at hdef
  cases hdef

theorem text_nonempty (r : Request) (kind : ArtifactKind) : r.text kind ≠ "" := by
  intro h
  have hthird := r.text_third kind
  rw [h] at hthird
  cases kind with
  | declaration => cases hthird
  | definition => cases hthird

end Scaffold.Request
