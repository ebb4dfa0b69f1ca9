import Mathlib.Data.String.Basic
import Scaffold.Vocabulary

/-!
The order of texts by their UTF-8 bytes.

It is the order by code points, since the bytes of a character tell it from every other before they
end, and do so in the same direction. So sorted names are in ascending order of their bytes.
-/
namespace Scaffold

namespace Text

/-- The bytes of a text in UTF-8. -/
def bytes (s : String) : List UInt8 := s.toUTF8.data.toList

theorem bytes_eq_flatMap (s : String) : bytes s = s.toList.flatMap String.utf8EncodeChar := by
  rw [bytes, String.toUTF8_eq_toByteArray, ← String.utf8Encode_toList]
  exact List.toList_data_toByteArray

theorem ofNat_cons_lt_iff {a b : Nat} (ha : a < 256) (hb : b < 256) {xs ys : List UInt8} :
    UInt8.ofNat a :: xs < UInt8.ofNat b :: ys ↔ a < b ∨ a = b ∧ xs < ys := by
  have hlt : UInt8.ofNat a < UInt8.ofNat b ↔ a < b := by
    rw [UInt8.lt_iff_toNat_lt, UInt8.toNat_ofNat_of_lt' ha, UInt8.toNat_ofNat_of_lt' hb]
  have heq : UInt8.ofNat a = UInt8.ofNat b ↔ a = b := by
    rw [← UInt8.toNat_inj, UInt8.toNat_ofNat_of_lt' ha, UInt8.toNat_ofNat_of_lt' hb]
  rw [List.cons_lt_cons_iff, hlt, heq]

/-- The bytes of the smaller character come first, whatever follows either. -/
theorem encode_append_lt {c d : Char} (h : c < d) (xs ys : List UInt8) :
    String.utf8EncodeChar c ++ xs < String.utf8EncodeChar d ++ ys := by
  have hlt : c.val.toNat < d.val.toNat := h
  have hmax : d.val.toNat < 0x110000 := by
    have hvalid := d.valid
    simp only [UInt32.isValidChar, Nat.isValidChar] at hvalid
    omega
  unfold String.utf8EncodeChar
  generalize c.val.toNat = m at *
  generalize d.val.toNat = n at *
  simp only []
  -- all bytes but the first are digits to the base 64, so the numbers are compared digit by digit
  have hdiv (k : Nat) : k / 4096 = k / 64 / 64 ∧ k / 262144 = k / 64 / 64 / 64 := by omega
  have hdigit (k l : Nat) (h : k < l) :
      k / 64 < l / 64 ∨ k / 64 = l / 64 ∧ k % 64 < l % 64 := by omega
  rw [(hdiv m).1, (hdiv m).2, (hdiv n).1, (hdiv n).2]
  have h₁ := hdigit m n hlt
  have h₂ := hdigit (m / 64) (n / 64)
  have h₃ := hdigit (m / 64 / 64) (n / 64 / 64)
  split_ifs <;>
    simp (disch := omega) only [List.cons_append, List.nil_append, ofNat_cons_lt_iff] <;>
    omega

theorem encode_ne_nil (c : Char) : String.utf8EncodeChar c ≠ [] := by
  unfold String.utf8EncodeChar
  simp only []
  split_ifs <;> simp

theorem append_lt_append_iff (front xs ys : List UInt8) : front ++ xs < front ++ ys ↔ xs < ys := by
  induction front with
  | nil => rfl
  | cons b front ih => simp [ih]

theorem flatMap_encode_lt_iff (cs ds : List Char) :
    cs.flatMap String.utf8EncodeChar < ds.flatMap String.utf8EncodeChar ↔ cs < ds := by
  -- character by character: the first two that differ decide both comparisons
  induction cs generalizing ds with
  | nil =>
    cases ds with
    | nil => simp
    | cons d ds =>
      obtain ⟨b, bs, hb⟩ := List.exists_cons_of_ne_nil (encode_ne_nil d)
      simp [hb]
  | cons c cs ih =>
    cases ds with
    | nil => simp
    | cons d ds =>
      rw [List.flatMap_cons, List.flatMap_cons, List.cons_lt_cons_iff]
      rcases lt_trichotomy c d with h | rfl | h
      · exact iff_of_true (encode_append_lt h _ _) (Or.inl h)
      · rw [append_lt_append_iff, ih]
        simp
      · refine iff_of_false ?_ ?_
        · exact List.lt_asymm (encode_append_lt h _ _)
        · rintro (h' | ⟨rfl, -⟩)
          · exact lt_asymm h h'
          · exact lt_irrefl _ h

/-- Texts are compared in the same way by bytes as by code points. -/
theorem bytes_lt_iff (s t : String) : bytes s < bytes t ↔ s < t := by
  rw [bytes_eq_flatMap, bytes_eq_flatMap, flatMap_encode_lt_iff, String.lt_iff_toList_lt]

theorem bytes_le_iff (s t : String) : bytes s ≤ bytes t ↔ s ≤ t := by
  rw [← List.not_lt, bytes_lt_iff, String.not_lt]

/-- In ascending order of the bytes, equal texts being allowed. -/
def Ascending (names : List String) : Prop := names.Pairwise fun s t => bytes s ≤ bytes t

end Text

theorem sortedNodes_perm (nodes : List String) : (sortedNodes nodes).Perm nodes :=
  List.mergeSort_perm nodes _

theorem ascending_sortedNodes (nodes : List String) : Text.Ascending (sortedNodes nodes) := by
  have htrans (a b c : String) (hab : decide (a ≤ b) = true) (hbc : decide (b ≤ c) = true) :
      decide (a ≤ c) = true := by
    rw [decide_eq_true_iff] at hab hbc ⊢
    exact String.le_trans hab hbc
  have htotal (a b : String) : (decide (a ≤ b) || decide (b ≤ a)) = true := by
    rw [Bool.or_eq_true, decide_eq_true_iff, decide_eq_true_iff]
    exact String.le_total a b
  have hsorted := List.pairwise_mergeSort htrans htotal nodes
  refine hsorted.imp fun {s t} h => ?_
  rw [Text.bytes_le_iff]
  exact of_decide_eq_true h

end Scaffold
