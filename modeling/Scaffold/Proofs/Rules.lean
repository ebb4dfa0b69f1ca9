import Mathlib.Data.List.Induction
import Mathlib.Data.List.Nodup
import Scaffold.Request

/-!
The rules of a request, and which of them it is blamed for.

The rules speak of each setting as a whole: the nodes are identifiers, and no two of them are equal.
A request that breaks a rule breaks a first one, in the order of the settings, and among the nodes
there is a first that is no identifier or was listed before. So each request keeps all rules or has
one offence to be blamed for, and validation finds out which.
-/
namespace Scaffold

/-! ### Identifiers -/

def IsLetter (c : Char) : Prop := ('A' ≤ c ∧ c ≤ 'Z') ∨ ('a' ≤ c ∧ c ≤ 'z')

def IsDigit (c : Char) : Prop := '0' ≤ c ∧ c ≤ '9'

/-- A letter or an underscore, and then any number of letters, digits and underscores. -/
def IsWord (s : String) : Prop := ∃ c cs, s.toList = c :: cs ∧ (IsLetter c ∨ c = '_') ∧
  ∀ d ∈ cs, IsLetter d ∨ IsDigit d ∨ d = '_'

theorem between_iff (first last c : Char) :
    (decide (c.val ≥ first.val) && decide (c.val ≤ last.val)) = true ↔ first ≤ c ∧ c ≤ last := by
  rw [Bool.and_eq_true, decide_eq_true_iff, decide_eq_true_iff]
  exact Iff.rfl

theorem isAlpha_iff (c : Char) : c.isAlpha = true ↔ IsLetter c := by
  have hupper : c.isUpper = true ↔ 'A' ≤ c ∧ c ≤ 'Z' := decide_eq_true_iff
  have hlower : c.isLower = true ↔ 'a' ≤ c ∧ c ≤ 'z' := between_iff 'a' 'z' c
  rw [IsLetter, ← hupper, ← hlower]
  exact Bool.or_eq_true_iff

theorem isDigit_iff (c : Char) : c.isDigit = true ↔ IsDigit c := between_iff '0' '9' c

theorem isIdentifier_iff (s : String) : isIdentifier s = true ↔ IsWord s := by
  have hstart (c : Char) : isIdentifierStart c = true ↔ IsLetter c ∨ c = '_' := by
    rw [isIdentifierStart, Bool.or_eq_true, decide_eq_true_iff, isAlpha_iff]
  have hpart (c : Char) : isIdentifierPart c = true ↔ IsLetter c ∨ IsDigit c ∨ c = '_' := by
    rw [isIdentifierPart, Bool.or_eq_true, decide_eq_true_iff, Char.isAlphanum, Bool.or_eq_true,
      isAlpha_iff, isDigit_iff, or_assoc]
  rw [isIdentifier, IsWord]
  cases s.toList with
  | nil => simp
  | cons c cs =>
    simp only [Bool.and_eq_true, List.all_eq_true, hstart, hpart]
    constructor
    · intro h
      exact ⟨c, cs, rfl, h⟩
    · intro h
      obtain ⟨c', cs', hcons, h⟩ := h
      obtain ⟨rfl, rfl⟩ := List.cons.inj hcons
      exact h

namespace Request

variable {r : Request} {name extension node key : String} {before nodes seen : List String}
  {defect : Defect}

/-! ### Rules -/

structure ProperName (name : String) : Prop where
  nonempty : name ≠ ""
  ascii : ∀ c ∈ name.toList, c.toNat < 128
  solid : ∀ c ∈ name.toList, Text.isBlank c = false ∧ c ≠ '/' ∧ c ≠ '\\'

structure ProperNodes (nodes : List String) : Prop where
  words : ∀ node ∈ nodes, IsWord node
  distinct : nodes.Nodup

structure ProperExtension (extension : String) : Prop where
  nonempty : extension ≠ ""
  bare : ∀ c ∈ extension.toList, c ≠ '.' ∧ c ≠ '/' ∧ c ≠ '\\'

/-- Every setting keeps its rule. -/
structure Proper (r : Request) : Prop where
  name : ProperName r.name
  nodes : ProperNodes r.nodes
  declarationExt : ProperExtension r.declarationExt
  definitionExt : ProperExtension r.definitionExt

/-! ### Offences -/

/-- What is wrong with a name. Blanks and separators come before characters past ASCII. -/
inductive NameOffence (name : String) : Defect → Prop where
  | empty (h : name = "") : NameOffence name .emptyName
  | characters {c : Char} (hc : c ∈ name.toList)
      (h : Text.isBlank c = true ∨ c = '/' ∨ c = '\\') :
      NameOffence name (.nameCharacters name)
  | notAscii {c : Char}
      (solid : ∀ c ∈ name.toList, Text.isBlank c = false ∧ c ≠ '/' ∧ c ≠ '\\')
      (hc : c ∈ name.toList) (h : 128 ≤ c.toNat) : NameOffence name (.nameNotAscii name)

/-- What is wrong with a node that is listed after others. -/
inductive NodeOffence (before : List String) (node : String) : Defect → Prop where
  | notWord (h : ¬ IsWord node) : NodeOffence before node (.notIdentifier node)
  | repeated (h : node ∈ before) : NodeOffence before node (.repeatedNode node)

/-- The first setting that breaks its rule, by its key, and what is wrong with it. Of the nodes, the
first with an offence counts. -/
inductive Blames (r : Request) : String → Defect → Prop where
  | name {defect : Defect} (offence : NameOffence r.name defect) : Blames r "name" defect
  | nodes {before after : List String} {node : String} {defect : Defect}
      (name : ProperName r.name) (split : r.nodes = before ++ node :: after)
      (proper : ProperNodes before) (offence : NodeOffence before node defect) :
      Blames r "nodes" defect
  | declarationExt (name : ProperName r.name) (nodes : ProperNodes r.nodes)
      (offence : ¬ ProperExtension r.declarationExt) :
      Blames r "declaration_ext" (.notExtension r.declarationExt)
  | definitionExt (name : ProperName r.name) (nodes : ProperNodes r.nodes)
      (declarationExt : ProperExtension r.declarationExt)
      (offence : ¬ ProperExtension r.definitionExt) :
      Blames r "definition_ext" (.notExtension r.definitionExt)

/-! ### Names and extensions -/

theorem isSeparator_iff (c : Char) : isSeparator c = true ↔ c = '/' ∨ c = '\\' := by
  rw [isSeparator, Bool.or_eq_true, decide_eq_true_iff, decide_eq_true_iff]

theorem isSeparator_eq_false {c : Char} (hslash : c ≠ '/') (hbackslash : c ≠ '\\') :
    isSeparator c = false := by
  rw [← Bool.not_eq_true, isSeparator_iff, not_or]
  exact ⟨hslash, hbackslash⟩

theorem any_eq_false_iff_solid : (name.toList.any fun c => Text.isBlank c || isSeparator c) = false ↔
    ∀ c ∈ name.toList, Text.isBlank c = false ∧ c ≠ '/' ∧ c ≠ '\\' := by
  rw [List.any_eq_false]
  refine forall₂_congr fun c _ => ?_
  rw [Bool.or_eq_true, isSeparator_iff, not_or, not_or, Bool.not_eq_true]

theorem nameDefect?_of_proper (h : ProperName name) : nameDefect? name = none := by
  have hne : ¬ name.isEmpty = true := by simpa using h.nonempty
  have hascii : name.toList.all Text.isAscii = true :=
    List.all_eq_true.2 fun c hc => decide_eq_true (h.ascii c hc)
  rw [nameDefect?, if_neg hne, any_eq_false_iff_solid.2 h.solid, if_neg Bool.false_ne_true,
    if_pos hascii]

theorem nameDefect?_of_offence (h : NameOffence name defect) : nameDefect? name = some defect := by
  have hfilled {c : Char} (hc : c ∈ name.toList) : ¬ name.isEmpty = true := by
    intro hempty
    rw [String.isEmpty_iff.1 hempty] at hc
    cases hc
  cases h with
  | empty h => exact if_pos (by rw [h]; rfl)
  | characters hc h =>
    rw [nameDefect?, if_neg (hfilled hc)]
    refine if_pos (List.any_eq_true.2 ⟨_, hc, ?_⟩)
    rw [Bool.or_eq_true, isSeparator_iff]
    exact h
  | notAscii solid hc h =>
    rw [nameDefect?, if_neg (hfilled hc), any_eq_false_iff_solid.2 solid,
      if_neg Bool.false_ne_true]
    apply if_neg
    intro hall
    have hsmall := of_decide_eq_true (List.all_eq_true.1 hall _ hc)
    omega

theorem proper_or_nameOffence (name : String) :
    ProperName name ∨ ∃ defect, NameOffence name defect := by
  by_cases hne : name = ""
  · exact Or.inr ⟨_, .empty hne⟩
  by_cases hsolid : ∀ c ∈ name.toList, Text.isBlank c = false ∧ c ≠ '/' ∧ c ≠ '\\'
  · by_cases hascii : ∀ c ∈ name.toList, c.toNat < 128
    · exact Or.inl ⟨hne, hascii, hsolid⟩
    · simp only [not_forall, Nat.not_lt] at hascii
      obtain ⟨c, hc, hlarge⟩ := hascii
      exact Or.inr ⟨_, .notAscii hsolid hc hlarge⟩
  · rw [← any_eq_false_iff_solid, Bool.not_eq_false, List.any_eq_true] at hsolid
    obtain ⟨c, hc, hmark⟩ := hsolid
    rw [Bool.or_eq_true, isSeparator_iff] at hmark
    exact Or.inr ⟨_, .characters hc hmark⟩

theorem nameDefect?_eq_none_iff : nameDefect? name = none ↔ ProperName name := by
  constructor
  · intro h
    rcases proper_or_nameOffence name with hproper | ⟨defect, offence⟩
    · exact hproper
    · rw [nameDefect?_of_offence offence] at h
      cases h
  · exact nameDefect?_of_proper

theorem any_eq_false_iff_bare : (extension.toList.any fun c => c = '.' || isSeparator c) = false ↔
    ∀ c ∈ extension.toList, c ≠ '.' ∧ c ≠ '/' ∧ c ≠ '\\' := by
  rw [List.any_eq_false]
  refine forall₂_congr fun c _ => ?_
  rw [Bool.or_eq_true, decide_eq_true_iff, isSeparator_iff, not_or, not_or]

theorem extensionDefect?_eq_none_iff : extensionDefect? extension = none ↔
    ProperExtension extension := by
  have hmarks : (extension.isEmpty || extension.toList.any fun c => c = '.' || isSeparator c)
      = false ↔ ProperExtension extension := by
    rw [Bool.or_eq_false_iff, any_eq_false_iff_bare]
    constructor
    · intro h
      exact ⟨by simpa using h.1, h.2⟩
    · intro h
      exact ⟨by simpa using h.nonempty, h.bare⟩
  rw [extensionDefect?, ← hmarks]
  cases extension.isEmpty || extension.toList.any fun c => c = '.' || isSeparator c <;> simp

theorem extensionDefect?_of_not_proper (h : ¬ ProperExtension extension) :
    extensionDefect? extension = some (.notExtension extension) := by
  rw [← extensionDefect?_eq_none_iff, extensionDefect?] at h
  rw [extensionDefect?]
  split at h
  · next hmarks => exact if_pos hmarks
  · exact absurd rfl h

/-! ### Nodes -/

theorem ProperNodes.reverse (h : ProperNodes nodes) : ProperNodes nodes.reverse :=
  ⟨fun node hnode => h.words node (List.mem_reverse.1 hnode), List.nodup_reverse.2 h.distinct⟩

theorem ProperNodes.concat (h : ProperNodes nodes) (hword : IsWord node) (hnew : node ∉ nodes) :
    ProperNodes (nodes ++ [node]) := by
  refine ⟨?_, ?_⟩
  · intro other hother
    rcases List.mem_append.1 hother with hother | hother
    · exact h.words other hother
    · rwa [List.mem_singleton.1 hother]
  · rw [List.nodup_middle, List.append_nil]
    exact List.nodup_cons.2 ⟨hnew, h.distinct⟩

/-- Nodes that keep the rule are passed over, and are known from then on. -/
theorem nodesDefect?_append (h : ProperNodes (before.reverse ++ seen)) (nodes : List String) :
    nodesDefect? seen (before ++ nodes) = nodesDefect? (before.reverse ++ seen) nodes := by
  -- what has been seen is kept last first, so a node that is passed goes to the end of the others
  induction before generalizing seen with
  | nil => rfl
  | cons node before ih =>
    have hshift : (node :: before).reverse ++ seen = before.reverse ++ node :: seen := by simp
    rw [hshift] at h ⊢
    have hword : isIdentifier node = true := (isIdentifier_iff node).2 (h.words node (by simp))
    have hnew : node ∉ seen := by
      have hdistinct : (node :: seen).Nodup := h.distinct.sublist (List.sublist_append_right _ _)
      exact (List.nodup_cons.1 hdistinct).1
    have hcontains : ¬ seen.contains node = true := by simpa using hnew
    rw [List.cons_append, nodesDefect?, hword, if_neg (by decide), if_neg hcontains]
    exact ih h

/-- Before the first node nothing has been seen. -/
theorem nodesDefect?_passed (h : ProperNodes before) (nodes : List String) :
    nodesDefect? [] (before ++ nodes) = nodesDefect? before.reverse nodes := by
  have hpassed : ProperNodes (before.reverse ++ []) := by
    rw [List.append_nil]
    exact h.reverse
  rw [nodesDefect?_append hpassed, List.append_nil]

theorem nodesDefect?_of_proper (h : ProperNodes nodes) : nodesDefect? [] nodes = none := by
  have hpassed := nodesDefect?_passed h []
  rw [List.append_nil] at hpassed
  exact hpassed

theorem nodesDefect?_of_offence (h : ProperNodes before)
    (offence : NodeOffence before node defect) (after : List String) :
    nodesDefect? [] (before ++ node :: after) = some defect := by
  rw [nodesDefect?_passed h, nodesDefect?]
  cases offence with
  | notWord hnode =>
    have hword : isIdentifier node = false := by
      rw [← Bool.not_eq_true, isIdentifier_iff]
      exact hnode
    rw [hword]
    rfl
  | repeated hmem =>
    have hword : isIdentifier node = true := (isIdentifier_iff node).2 (h.words node hmem)
    have hcontains : before.reverse.contains node = true := by simpa using hmem
    rw [hword, if_neg (by decide), if_pos hcontains]

/-- A list of nodes keeps the rule, or there is a first node in it that breaks it. -/
theorem proper_or_nodeOffence (nodes : List String) : ProperNodes nodes ∨
    ∃ before node after defect, nodes = before ++ node :: after ∧ ProperNodes before ∧
      NodeOffence before node defect := by
  -- from the front to the back, so that a node that is added is the last one
  induction nodes using List.reverseRecOn with
  | nil => exact Or.inl ⟨List.forall_mem_nil _, List.nodup_nil⟩
  | append_singleton nodes node ih =>
    rcases ih with h | ⟨before, first, after, defect, rfl, h, offence⟩
    · by_cases hword : IsWord node
      · by_cases hmem : node ∈ nodes
        · exact Or.inr ⟨nodes, node, [], _, rfl, h, .repeated hmem⟩
        · exact Or.inl (h.concat hword hmem)
      · exact Or.inr ⟨nodes, node, [], _, rfl, h, .notWord hword⟩
    · refine Or.inr ⟨before, first, after ++ [node], defect, ?_, h, offence⟩
      rw [List.append_assoc, List.cons_append]

theorem nodesDefect?_eq_none_iff : nodesDefect? [] nodes = none ↔ ProperNodes nodes := by
  constructor
  · intro h
    rcases proper_or_nodeOffence nodes with hproper | ⟨_, _, _, _, rfl, proper, offence⟩
    · exact hproper
    · rw [nodesDefect?_of_offence proper offence] at h
      cases h
  · exact nodesDefect?_of_proper

/-! ### Requests -/

/-- A request breaks no rule if none of its settings has a defect. -/
theorem validate_eq_ok_iff : r.validate = .ok () ↔ nameDefect? r.name = none ∧
    nodesDefect? [] r.nodes = none ∧ extensionDefect? r.declarationExt = none ∧
    extensionDefect? r.definitionExt = none := by
  rw [validate]
  cases hn : nameDefect? r.name <;> cases hs : nodesDefect? [] r.nodes <;>
    cases hd : extensionDefect? r.declarationExt <;>
    cases hf : extensionDefect? r.definitionExt <;>
    simp [defects, hn, hs, hd, hf]

theorem validate_eq_ok_iff_proper : r.validate = .ok () ↔ r.Proper := by
  rw [validate_eq_ok_iff, nameDefect?_eq_none_iff, nodesDefect?_eq_none_iff,
    extensionDefect?_eq_none_iff, extensionDefect?_eq_none_iff]
  constructor
  · intro h
    exact ⟨h.1, h.2.1, h.2.2.1, h.2.2.2⟩
  · intro h
    exact ⟨h.name, h.nodes, h.declarationExt, h.definitionExt⟩

theorem validate_of_blames (h : r.Blames key defect) :
    r.validate = .error (.invalidParameter key defect) := by
  cases h with
  | name offence =>
    have hname := nameDefect?_of_offence offence
    simp [validate, defects, hname]
  | @nodes _ after _ _ name split proper offence =>
    have hname := nameDefect?_of_proper name
    have hnodes := nodesDefect?_of_offence proper offence after
    simp [validate, defects, hname, split, hnodes]
  | declarationExt name nodes offence =>
    have hname := nameDefect?_of_proper name
    have hnodes := nodesDefect?_of_proper nodes
    have hext := extensionDefect?_of_not_proper offence
    simp [validate, defects, hname, hnodes, hext]
  | definitionExt name nodes declarationExt offence =>
    have hname := nameDefect?_of_proper name
    have hnodes := nodesDefect?_of_proper nodes
    have hfirst := extensionDefect?_eq_none_iff.2 declarationExt
    have hext := extensionDefect?_of_not_proper offence
    simp [validate, defects, hname, hnodes, hfirst, hext]

theorem proper_or_blames (r : Request) : r.Proper ∨ ∃ key defect, r.Blames key defect := by
  rcases proper_or_nameOffence r.name with hname | ⟨defect, offence⟩
  · rcases proper_or_nodeOffence r.nodes with hnodes | ⟨_, _, _, _, split, proper, offence⟩
    · by_cases hdeclaration : ProperExtension r.declarationExt
      · by_cases hdefinition : ProperExtension r.definitionExt
        · exact Or.inl ⟨hname, hnodes, hdeclaration, hdefinition⟩
        · exact Or.inr ⟨_, _, .definitionExt hname hnodes hdeclaration hdefinition⟩
      · exact Or.inr ⟨_, _, .declarationExt hname hnodes hdeclaration⟩
    · exact Or.inr ⟨_, _, .nodes hname split proper offence⟩
  · exact Or.inr ⟨_, _, .name offence⟩

/-- Exactly the requests that keep all rules are valid, and any other one is refused for the first of
its offences. -/
theorem validate_blames_first (r : Request) : (r.validate = .ok () ↔ r.Proper) ∧
    ∀ failure, r.validate = .error failure ↔
      ∃ key defect, failure = .invalidParameter key defect ∧ r.Blames key defect := by
  refine ⟨validate_eq_ok_iff_proper, ?_⟩
  intro failure
  constructor
  · intro hfailure
    -- a request that is refused is not a proper one, so there is something to blame it for
    rcases r.proper_or_blames with hproper | ⟨key, defect, h⟩
    · rw [validate_eq_ok_iff_proper.2 hproper] at hfailure
      cases hfailure
    · rw [validate_of_blames h] at hfailure
      exact ⟨key, defect, (Except.error.inj hfailure).symm, h⟩
  · intro hblames
    obtain ⟨key, defect, hfailure, h⟩ := hblames
    rw [hfailure]
    exact validate_of_blames h

end Request

end Scaffold
