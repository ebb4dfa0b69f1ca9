import Scaffold.Cli.Run
import Scaffold.Proofs.Iteration
import Scaffold.Proofs.Positions

/-!
Iteration up to the largest size.

The iterator gives each item once, at the call of its number, and nothing from then on. Its index
stays below the number of items, so that neither it nor the one after it outgrows a size, and each
line that is printed for it can be read back.
-/
namespace Scaffold

variable {α : Type}

open Decimal (sizeLimit)

namespace Positioned

theorem index_after_lt (items : Array α) (n : Nat) :
    (after items n).cursor.index < max items.size 1 := by
  cases n with
  | zero =>
    have hindex : (after items 0).cursor.index = 0 := rfl
    omega
  | succ n =>
    have hindex : (after items (n + 1)).cursor.index = min n (items.size - 1) := rfl
    omega

end Positioned

namespace Cli

/-- The position of each index in turn, one on a line. -/
theorem positionLines_eq (length : Nat) : positionLines length =
    ((List.range length).map fun i => (Position.of length i).text).map (· ++ "\n") := by
  rw [positionLines, positioned_eq, Array.size_replicate]
  apply List.ext_getElem
  · simp
  · intro i hi hi'
    simp

/-- The command for a cursor prints the positions and ends well. -/
theorem run_cursor {args : List String} {path : String} {verbosity length : Nat}
    (hp : parse args = .ok ⟨path, verbosity, .cursor length⟩) (t : FileTree)
    (printed : Transcript) : ((run treeHost args).run t).run printed =
      ((0, t), { printed with out := printed.out ++ String.join (positionLines length) }) := by
  unfold run
  rw [hp]
  rfl

end Cli

/-- Lists of every length that is a size: the calls of the iterator give each item with its
position and then nothing, and none of them moves the cursor past its end. The indices that a call
computes are that of the cursor before it or after it, and the next one; all of these are sizes.
What the program prints for a cursor of such a length is one line for each index, from which the
position of that index is read. -/
theorem positions_enumerated {length : Nat} (h : length < sizeLimit) :
    (∀ (α : Type) (items : Array α), items.size = length → ∀ n, ∃ p,
      (Positioned.start items).calls n =
        .ok ((List.range n).map (Positioned.item? items), p) ∧
      p.cursor.index + 1 < sizeLimit) ∧
    ∀ args path verbosity, Cli.parse args = .ok ⟨path, verbosity, .cursor length⟩ →
      ∀ (t : FileTree) (printed : Cli.Transcript), ∃ lines : List String,
        ((Cli.run Cli.treeHost args).run t).run printed =
          ((0, t), { printed with out := printed.out ++ String.join (lines.map (· ++ "\n")) }) ∧
        lines.length = length ∧ (∀ line ∈ lines, '\n' ∉ line.toList) ∧
        ∀ i (hi : i < lines.length), Position.parse lines[i] = .ok (.of length i) := by
  have hsized (i : Nat) (hi : i < length) : (Position.of length i).Sized :=
    ⟨Nat.lt_trans hi h, h⟩
  constructor
  · rintro α items rfl n
    have hcalls := Positioned.calls_after items 0 n
    rw [← List.range_eq_range', Nat.zero_add] at hcalls
    have hindex := Positioned.index_after_lt items n
    have hone : 1 < sizeLimit := by decide
    exact ⟨_, hcalls, by omega⟩
  · intro args path verbosity hp t printed
    refine ⟨(List.range length).map fun i => (Position.of length i).text, ?_, ?_, ?_, ?_⟩
    · rw [Cli.run_cursor hp, Cli.positionLines_eq]
    · simp
    · intro line hline
      obtain ⟨i, hi, rfl⟩ := List.mem_map.1 hline
      exact (hsized i (List.mem_range.1 hi)).newline_not_mem_text
    · intro i hi
      have hlength : i < length := by simpa using hi
      simp only [List.getElem_map, List.getElem_range]
      exact Position.parse_text (hsized i hlength)

/-- A list of two items, and the program called for a cursor of that length. -/
theorem positions_enumerated_two :
    let items := #["a", "b"]
    let args := ["cursor", "2"]
    2 < sizeLimit ∧ items.size = 2 ∧
      (∃ p, (Positioned.start items).calls 3 =
        .ok ([some (⟨0, true, false, 2⟩, "a"), some (⟨1, false, true, 2⟩, "b"), none], p)) ∧
      Cli.parse args = .ok ⟨Cli.defaultConfigPath, 0, .cursor 2⟩ ∧
      ∃ lines : List String,
        ((Cli.run Cli.treeHost args).run ⟨[], []⟩).run .empty =
          ((0, ⟨[], []⟩), ⟨String.join (lines.map (· ++ "\n")), ""⟩) ∧ lines.length = 2 := by
  intro items args
  have h : 2 < sizeLimit := by decide
  have hp : Cli.parse args = .ok ⟨Cli.defaultConfigPath, 0, .cursor 2⟩ := by
    have hhead : Cli.rootGrammar.readHead .none args = .ok (.none, "cursor", args.tail) := by
      unfold Cli.Grammar.readHead
      rfl
    have hnil : Cli.cursorGrammar.read ⟨.none, some 2⟩ [] = .ok ⟨.none, some 2⟩ := by
      rw [Cli.Grammar.read.eq_def]
    have hread : Cli.cursorGrammar.read ⟨.none, none⟩ args.tail = .ok ⟨.none, some 2⟩ := by
      rw [Cli.Grammar.read.eq_def]
      exact hnil
    have hcommand : Cli.readCommand "cursor" args.tail = .ok (.none, .cursor 2) := by
      rw [Cli.readCommand, if_neg (by decide), if_neg (by decide), if_neg (by decide), if_pos rfl,
        hread]
      rfl
    rw [Cli.parse, hhead]
    change (Cli.readCommand "cursor" args.tail >>= _) = _
    rw [hcommand]
    rfl
  obtain ⟨hcalls, hprints⟩ := positions_enumerated h
  obtain ⟨p, hthree, -⟩ := hcalls String items rfl 3
  obtain ⟨lines, hrun, hlength, -⟩ := hprints args _ _ hp ⟨[], []⟩ .empty
  exact ⟨h, rfl, ⟨p, hthree⟩, hp, lines, hrun, hlength⟩

end Scaffold
