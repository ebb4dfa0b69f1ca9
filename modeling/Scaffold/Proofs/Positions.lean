import Scaffold.Cursor
import Scaffold.Proofs.Paths

/-!
Positions as texts.

A position is read from four fields between colons, of which the outer two are sizes in decimal
digits. What is written for a position of such sizes is one of its texts, so it is read back; and as
only such positions can be read, writing a position that was read loses nothing.
-/
namespace Scaffold

/-! ### Sizes -/

namespace Decimal

variable {cs : List Char} {s : String} {n : Nat}

/-- Decimal digits that stand for a size, with one plus sign before them or not. -/
def Numeral (s : String) (n : Nat) : Prop :=
  ∃ digits : List Char, (s.toList = digits ∨ s.toList = '+' :: digits) ∧ digits ≠ [] ∧
    (∀ c ∈ digits, c.isDigit = true) ∧ Nat.ofDigitChars 10 digits 0 = n ∧ n < sizeLimit

theorem dropPlus_spec (cs : List Char) : cs = dropPlus cs ∨ cs = '+' :: dropPlus cs := by
  fun_cases dropPlus cs with
  | case1 rest => exact Or.inr rfl
  | case2 => exact Or.inl rfl

theorem dropPlus_of_digits (h : ∀ c ∈ cs, c.isDigit = true) : dropPlus cs = cs := by
  fun_cases dropPlus cs with
  | case1 rest =>
    have hplus := h '+' List.mem_cons_self
    exact absurd hplus (by decide)
  | case2 => rfl

theorem size?_eq_some_iff : size? s = some n ↔ Numeral s n := by
  have hsize (digits : List Char) (hd : dropPlus s.toList = digits) : size? s = some n ↔
      digits ≠ [] ∧ (∀ c ∈ digits, c.isDigit = true) ∧ value digits = n ∧ n < sizeLimit := by
    subst hd
    simp only [size?]
    split
    · next h =>
      simp only [Bool.and_eq_true, Bool.not_eq_true', List.isEmpty_eq_false_iff, List.all_eq_true,
        decide_eq_true_eq] at h
      obtain ⟨⟨hne, hdigits⟩, hlt⟩ := h
      constructor
      · intro hn
        cases hn
        exact ⟨hne, hdigits, rfl, hlt⟩
      · rintro ⟨-, -, rfl, -⟩
        rfl
    · next h =>
      refine iff_of_false (by simp) ?_
      rintro ⟨hne, hdigits, rfl, hlt⟩
      apply h
      simp [hne, hlt]
      exact hdigits
  constructor
  · intro h
    obtain ⟨hne, hdigits, hvalue, hlt⟩ := (hsize _ rfl).1 h
    exact ⟨_, dropPlus_spec s.toList, hne, hdigits, hvalue, hlt⟩
  · rintro ⟨digits, hs | hs, hne, hdigits, hvalue, hlt⟩
    · have hd : dropPlus s.toList = digits := by rw [hs, dropPlus_of_digits hdigits]
      exact (hsize digits hd).2 ⟨hne, hdigits, hvalue, hlt⟩
    · have hd : dropPlus s.toList = digits := by rw [hs, dropPlus]
      exact (hsize digits hd).2 ⟨hne, hdigits, hvalue, hlt⟩

theorem numeral_toString (h : n < sizeLimit) : Numeral (toString n) n := by
  have hdigits : (toString n).toList = Nat.toDigits 10 n := by simp
  refine ⟨Nat.toDigits 10 n, Or.inl hdigits, Nat.toDigits_ne_nil, ?_, ?_, h⟩
  · intro c hc
    exact Nat.isDigit_of_mem_toDigits (by decide) (by decide) hc
  · exact Nat.ofDigitChars_toDigits (by decide) (by decide)

/-- A numeral has no characters but digits and a plus sign. -/
theorem Numeral.not_mem {c : Char} (h : Numeral s n) (hc : c.isDigit = false) (hplus : c ≠ '+') :
    c ∉ s.toList := by
  obtain ⟨digits, hs, -, hdigits, -⟩ := h
  intro hmem
  have hdigit : c ∈ digits := by
    rcases hs with hs | hs
    · rwa [hs] at hmem
    · rw [hs] at hmem
      exact (List.mem_cons.1 hmem).resolve_left hplus
  rw [hdigits c hdigit] at hc
  cases hc

end Decimal

open Decimal (Numeral sizeLimit)

namespace Text

/-- A text that is made of some fields, with a colon between each and the next. -/
structure Splits (s : String) (fields : List String) : Prop where
  joined : ":".intercalate fields = s
  apart : ∀ field ∈ fields, ':' ∉ field.toList

theorem splits_iff {s : String} {fs : List String} (hne : fs ≠ []) :
    Splits s fs ↔ fields ':' s.toList = fs.map String.toList := by
  have hmap : fs.map String.toList ≠ [] := by simpa using hne
  have hcolon : ":".toList = [':'] := rfl
  rw [fields_eq_iff, List.forall_mem_map, ← hcolon, ← String.toList_intercalate, String.toList_inj]
  constructor
  · rintro ⟨hjoined, hapart⟩
    exact ⟨hmap, hapart, hjoined⟩
  · rintro ⟨-, hapart, hjoined⟩
    exact ⟨hjoined, hapart⟩

end Text

namespace Position

variable {s : String} {p : Position}

/-- The numbers of a position are sizes. -/
structure Sized (p : Position) : Prop where
  index : p.index < sizeLimit
  length : p.length < sizeLimit

/-- Only a lone letter y, small or capital, means yes. -/
def Affirms (field : String) : Prop := field = "y" ∨ field = "Y"

/-- A text for a position. -/
inductive Spelled : String → Position → Prop where
  | intro {s index first last length : String} {p : Position}
      (split : Text.Splits s [index, first, last, length]) (index_eq : Numeral index p.index)
      (length_eq : Numeral length p.length) (first_iff : p.first = true ↔ Affirms first)
      (last_iff : p.last = true ↔ Affirms last) : Spelled s p

theorem readFlag_iff (field : String) : readFlag field.toList = true ↔ Affirms field := by
  have hy : "y".toList = ['y'] := rfl
  have hY : "Y".toList = ['Y'] := rfl
  rw [readFlag, Bool.or_eq_true, decide_eq_true_iff, decide_eq_true_iff, ← hy, ← hY,
    String.toList_inj, String.toList_inj, Affirms]

theorem affirms_flagText (b : Bool) : b = true ↔ Affirms (flagText b) := by
  cases b with
  | false => exact iff_of_false (by simp) (by simp [Affirms, flagText])
  | true => exact iff_of_true rfl (Or.inl rfl)

theorem parse?_eq_some_iff : parse? s = some p ↔ ∃ index first last length : List Char,
    Text.fields ':' s.toList = [index, first, last, length] ∧
      Decimal.size? (String.ofList index) = some p.index ∧
      Decimal.size? (String.ofList length) = some p.length ∧
      readFlag first = p.first ∧ readFlag last = p.last := by
  constructor
  · intro h
    rw [parse?] at h
    split at h
    · next index first last length hfields =>
      obtain ⟨i, hi, h⟩ := Option.bind_eq_some_iff.1 h
      obtain ⟨n, hn, h⟩ := Option.bind_eq_some_iff.1 h
      cases h
      exact ⟨index, first, last, length, hfields, hi, hn, rfl, rfl⟩
    · cases h
  · rintro ⟨index, first, last, length, hfields, hi, hn, hfirst, hlast⟩
    rw [parse?, hfields]
    simp only [hi, hn, hfirst, hlast]
    rfl

theorem parse_eq_ok_iff : parse s = .ok p ↔ Spelled s p := by
  have hparse : parse s = .ok p ↔ parse? s = some p := by
    rw [parse]
    cases parse? s <;> simp
  rw [hparse, parse?_eq_some_iff]
  constructor
  · rintro ⟨index, first, last, length, hfields, hi, hn, hfirst, hlast⟩
    have hsplits : Text.Splits s
        [String.ofList index, String.ofList first, String.ofList last, String.ofList length] := by
      rw [Text.splits_iff (List.cons_ne_nil _ _), hfields]
      simp
    refine .intro hsplits (Decimal.size?_eq_some_iff.1 hi) (Decimal.size?_eq_some_iff.1 hn) ?_ ?_
    · rw [← hfirst, ← readFlag_iff, String.toList_ofList]
    · rw [← hlast, ← readFlag_iff, String.toList_ofList]
  · rintro ⟨hsplits, hi, hn, hfirst, hlast⟩
    have hfields := (Text.splits_iff (List.cons_ne_nil _ _)).1 hsplits
    refine ⟨_, _, _, _, hfields, ?_, ?_, ?_, ?_⟩
    · rw [String.ofList_toList]
      exact Decimal.size?_eq_some_iff.2 hi
    · rw [String.ofList_toList]
      exact Decimal.size?_eq_some_iff.2 hn
    · rw [Bool.eq_iff_iff, readFlag_iff, hfirst]
    · rw [Bool.eq_iff_iff, readFlag_iff, hlast]

theorem text_eq (p : Position) : p.text =
    ":".intercalate [toString p.index, flagText p.first, flagText p.last, toString p.length] := by
  simp only [text, String.intercalate_cons_cons, String.intercalate_singleton, String.append_assoc]

/-- What is written for a position is one of its texts. -/
theorem Sized.spelled_text (h : p.Sized) : Spelled p.text p := by
  have hi := Decimal.numeral_toString h.index
  have hn := Decimal.numeral_toString h.length
  have hsplits : Text.Splits p.text
      [toString p.index, flagText p.first, flagText p.last, toString p.length] := by
    have hflag (b : Bool) : ':' ∉ (flagText b).toList := by cases b <;> decide
    refine ⟨p.text_eq.symm, ?_⟩
    simp only [List.forall_mem_cons]
    exact ⟨hi.not_mem (by decide) (by decide), hflag p.first, hflag p.last,
      hn.not_mem (by decide) (by decide), List.forall_mem_nil _⟩
  exact .intro hsplits hi hn (affirms_flagText p.first) (affirms_flagText p.last)

/-- A position is written on one line. -/
theorem Sized.newline_not_mem_text (h : p.Sized) : '\n' ∉ p.text.toList := by
  have hi := (Decimal.numeral_toString h.index).not_mem (c := '\n') (by decide) (by decide)
  have hn := (Decimal.numeral_toString h.length).not_mem (c := '\n') (by decide) (by decide)
  have hflag (b : Bool) : '\n' ∉ (flagText b).toList := by cases b <;> decide
  have hcolon : '\n' ∉ ":".toList := by decide
  simp only [text, String.toList_append, List.mem_append, not_or]
  exact ⟨⟨⟨⟨⟨⟨hi, hcolon⟩, hflag p.first⟩, hcolon⟩, hflag p.last⟩, hcolon⟩, hn⟩

theorem Spelled.sized (h : Spelled s p) : p.Sized := by
  obtain ⟨-, ⟨_, -, -, -, -, hi⟩, ⟨_, -, -, -, -, hn⟩, -, -⟩ := h
  exact ⟨hi, hn⟩

theorem parse_text (h : p.Sized) : parse p.text = .ok p := parse_eq_ok_iff.2 h.spelled_text

/-- A position whose numbers are sizes is read back from what is written for it. A text can be read
just if it splits at its colons into four fields of which the outer two are numerals, whatever the
flags between them; it is then one of the texts of the position that is read, and so is what is
written for that position. -/
theorem parse_spelled :
    (∀ p : Position, p.Sized → parse p.text = .ok p) ∧
    (∀ s, (∃ p, parse s = .ok p) ↔ ∃ index first last length n m,
      Text.Splits s [index, first, last, length] ∧ Numeral index n ∧ Numeral length m) ∧
    ∀ s p, parse s = .ok p → Spelled s p ∧ parse p.text = .ok p := by
  refine ⟨fun p h => parse_text h, fun s => ?_, fun s p h => ?_⟩
  · constructor
    · rintro ⟨p, h⟩
      obtain ⟨hsplits, hi, hn, -, -⟩ := parse_eq_ok_iff.1 h
      exact ⟨_, _, _, _, _, _, hsplits, hi, hn⟩
    · rintro ⟨index, first, last, length, n, m, hsplits, hn, hm⟩
      refine ⟨⟨n, readFlag first.toList, readFlag last.toList, m⟩, ?_⟩
      exact parse_eq_ok_iff.2 (.intro hsplits hn hm (readFlag_iff first) (readFlag_iff last))
  · have hspelled := parse_eq_ok_iff.1 h
    exact ⟨hspelled, parse_text hspelled.sized⟩

/-- The largest sizes, and a text with signs, leading zeros and flags of any kind. -/
theorem parse_spelled_largest :
    let largest : Position := ⟨18446744073709551615, false, true, 18446744073709551615⟩
    let s := "+00018446744073709551615:Y::+0"
    let p : Position := ⟨18446744073709551615, true, false, 0⟩
    largest.Sized ∧ parse largest.text = .ok largest ∧ parse s = .ok p ∧ Spelled s p ∧
      parse p.text = .ok p := by
  intro largest s p
  have hsized : largest.Sized := ⟨by decide, by decide⟩
  have hread : parse? s = some p := by decide +kernel
  have hs : parse s = .ok p := by rw [parse, hread]
  obtain ⟨htext, -, hspelled⟩ := parse_spelled
  exact ⟨hsized, htext largest hsized, hs, hspelled s p hs⟩

end Position

end Scaffold
