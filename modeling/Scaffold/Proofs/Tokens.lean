import Scaffold.Proofs.Casings
import Scaffold.Proofs.Layouts
import Scaffold.Proofs.Requests

/-!
The tokens of generated code.

A request that is accepted has identifiers for nodes, but its name need not be one, and nothing
keeps quotes and line breaks out of its extensions. The tokens are well formed just if the name is
an identifier too, and the extension of the declaration can stand between quotes.
-/
namespace Scaffold

variable {s s' : String} {r : Request} {params : Params}

/-- A text that can stand between double quotes on one line. -/
def Quotable (s : String) : Prop := ∀ c ∈ s.toList, c ≠ '"' ∧ c ≠ '\n' ∧ c ≠ '\r'

instance : Decidable (Quotable s) := List.decidableBAll _ s.toList

theorem quotable_append : Quotable (s ++ s') ↔ Quotable s ∧ Quotable s' := by
  rw [Quotable, String.toList_append]
  exact List.forall_mem_append

/-! ### Identifiers -/

theorem isIdentifier_of_cons {c : Char} {cs : List Char} (hs : s.toList = c :: cs) :
    isIdentifier s = (isIdentifierStart c && cs.all isIdentifierPart) := by
  rw [isIdentifier, hs]

theorem isIdentifier_append (hs : s ≠ "") :
    isIdentifier (s ++ s') = (isIdentifier s && s'.toList.all isIdentifierPart) := by
  rcases hcs : s.toList with _ | ⟨c, cs⟩
  · exact absurd (String.toList_inj.1 hcs) hs
  · have happend : (s ++ s').toList = c :: (cs ++ s'.toList) := by
      rw [String.toList_append, hcs, List.cons_append]
    rw [isIdentifier_of_cons hcs, isIdentifier_of_cons happend, List.all_append, Bool.and_assoc]

theorem all_isIdentifierPart (h : isIdentifier s = true) : s.toList.all isIdentifierPart := by
  rcases hcs : s.toList with _ | ⟨c, cs⟩
  · rfl
  · rw [isIdentifier_of_cons hcs, Bool.and_eq_true] at h
    obtain ⟨hstart, hrest⟩ := h
    have hpart : isIdentifierPart c = true := by
      simp only [isIdentifierStart, isIdentifierPart, Char.isAlphanum, Bool.or_eq_true] at hstart ⊢
      exact hstart.imp_left Or.inl
    rw [List.all_cons, hpart, hrest]
    rfl

theorem quotable_of_isIdentifier (h : isIdentifier s = true) : Quotable s := by
  intro c hc
  have hpart : isIdentifierPart c = true := List.all_eq_true.1 (all_isIdentifierPart h) c hc
  refine ⟨?_, ?_, ?_⟩
  all_goals
    rintro rfl
    revert hpart
    decide

/-- Whether a text is an identifier does not depend on the case of its letters. -/
theorem isIdentifier_alike (h : Text.Alike s s') : isIdentifier s' = isIdentifier s := by
  have hstart := Text.blind_of_ascii (p := isIdentifierStart) (by decide)
  have hpart := Text.blind_of_ascii (p := isIdentifierPart) (by decide)
  have hall (cs : List Char) : (cs.map Char.toLower).all isIdentifierPart =
      cs.all isIdentifierPart := by
    rw [List.all_map]
    exact congrArg cs.all (funext hpart)
  -- the two texts are one text in lower case, and neither test notices that
  rw [Text.Alike] at h
  rcases hcs : s.toList with _ | ⟨c, cs⟩
  · rw [hcs, List.map_nil, List.map_eq_nil_iff] at h
    rw [isIdentifier, isIdentifier, hcs, h]
  · rcases hcs' : s'.toList with _ | ⟨c', cs'⟩
    · simp [hcs, hcs'] at h
    · rw [hcs, hcs'] at h
      obtain ⟨hc, hrest⟩ := List.cons.inj h
      calc isIdentifier s'
        _ = (isIdentifierStart c' && cs'.all isIdentifierPart) := isIdentifier_of_cons hcs'
        _ = (isIdentifierStart c'.toLower && (cs'.map Char.toLower).all isIdentifierPart) := by
          rw [hstart, hall]
        _ = (isIdentifierStart c.toLower && (cs.map Char.toLower).all isIdentifierPart) := by
          rw [hc, hrest]
        _ = (isIdentifierStart c && cs.all isIdentifierPart) := by rw [hstart, hall]
        _ = isIdentifier s := (isIdentifier_of_cons hcs).symm

/-- A name followed by letters is an identifier just if the name is, whatever its case. -/
theorem isIdentifier_cased {suffix : String} (hs : s ≠ "") (h : Text.Alike s s')
    (hx : suffix.toList.all isIdentifierPart = true) :
    isIdentifier (s' ++ suffix) = isIdentifier s := by
  rw [isIdentifier_alike (h.append suffix), isIdentifier_append hs, hx, Bool.and_true]

/-! ### Tokens -/

/-- The tokens of the two artifacts that depend on the request. -/
structure Tokens where
  guard : String
  names : CodeNames
  nodes : List String
  header : String

/-- All that stands for a name is an identifier, and the header can be included. -/
structure Tokens.WellFormed (tokens : Tokens) : Prop where
  guard : isIdentifier tokens.guard = true
  space : isIdentifier tokens.names.space = true
  visitor : isIdentifier tokens.names.visitor = true
  backend : isIdentifier tokens.names.backend = true
  tgpBackend : isIdentifier tokens.names.tgpBackend = true
  nodes : ∀ node ∈ tokens.nodes, isIdentifier node = true
  header : Quotable tokens.header

namespace Request

def tokens (r : Request) : Tokens := ⟨r.guardName, .ofName r.name, r.nodes, r.headerName⟩

/-- The artifacts as they are written with these tokens, with a visitor or without. -/
def layout (r : Request) : ArtifactKind → String
  | .declaration =>
    r.tokens.names.declarationHead r.tokens.guard ++
      (if r.astVisitor then r.tokens.names.visitorClass (sortedNodes r.tokens.nodes) else "") ++
      r.tokens.names.declarationTail
  | .definition =>
    CodeNames.definitionHead r.tokens.header ++
      (if r.astVisitor then r.tokens.names.visitorBlock r.tokens.nodes else "") ++
      r.tokens.names.definitionTail

theorem text_eq_layout (kind : ArtifactKind) : r.text kind = r.layout kind := by
  cases kind with
  | declaration => exact r.declaration.join_fragments
  | definition => exact r.definition.join_fragments

theorem isIdentifier_of_nodesDefect? {nodes : List String} (h : nodesDefect? [] nodes = none) :
    ∀ node ∈ nodes, isIdentifier node = true := by
  intro node hnode
  exact (isIdentifier_iff node).2 ((nodesDefect?_eq_none_iff.1 h).words node hnode)

theorem ascii_of_nameDefect? {name : String} (h : nameDefect? name = none) :
    name ≠ "" ∧ ∀ c ∈ name.toList, Text.isAscii c = true := by
  have hproper : ProperName name := nameDefect?_eq_none_iff.1 h
  exact ⟨hproper.nonempty, fun c hc => decide_eq_true (hproper.ascii c hc)⟩

end Request

open Request in
/-- The artifacts of an accepted request consist of its tokens and of fixed text. The nodes among
them are identifiers. All of them are well formed just if the name is an identifier and the
extension of the declaration has no quote and no line break. -/
theorem wellFormed_tokens_iff (h : r.Accepted params) :
    (∀ kind, r.text kind = r.layout kind) ∧
    (∀ node ∈ r.tokens.nodes, isIdentifier node = true) ∧
    (r.tokens.WellFormed ↔ isIdentifier r.name = true ∧ Quotable r.declarationExt) := by
  obtain ⟨hname, hnodes, -, -⟩ := validate_eq_ok_iff.1 h.valid
  obtain ⟨hne, hascii⟩ := ascii_of_nameDefect? hname
  have hlower := Text.alike_lower hascii
  have htitle := Text.alike_title hascii
  have hupper := Text.alike_upper hascii
  have hident := isIdentifier_of_nodesDefect? hnodes
  have hspace : isIdentifier r.tokens.names.space = isIdentifier r.name :=
    isIdentifier_cased hne hlower (by decide)
  refine ⟨fun kind => text_eq_layout kind, hident, ?_⟩
  constructor
  · intro hwell
    obtain ⟨-, hext⟩ := quotable_append.1 hwell.header
    exact ⟨hspace ▸ hwell.space, hext⟩
  · rintro ⟨hid, hext⟩
    refine ⟨?_, ?_, ?_, ?_, ?_, hident, ?_⟩
    · -- a guard starts with an underscore, so that any part of an identifier may come after it
      have hparts := all_isIdentifierPart ((isIdentifier_alike hupper).trans hid)
      change isIdentifier ("__" ++ Text.upper r.name ++ "_BACKEND_H__") = true
      rw [String.append_assoc, isIdentifier_append (by decide), String.toList_append,
        List.all_append, hparts]
      decide
    · exact hspace.trans hid
    · exact (isIdentifier_cased hne htitle (by decide)).trans hid
    · exact (isIdentifier_cased hne htitle (by decide)).trans hid
    · exact (isIdentifier_cased hne htitle (by decide)).trans hid
    · have hlow := quotable_of_isIdentifier ((isIdentifier_alike hlower).trans hid)
      exact quotable_append.2 ⟨quotable_append.2 ⟨hlow, by decide⟩, hext⟩

/-- A name that begins with an underscore. -/
theorem wellFormed_tokens_iff_underscore :
    let r : Request := ⟨"_x1", true, ["B", "A"], "h", "c"⟩
    r.Accepted r.asParams ∧ (∀ kind, r.text kind = r.layout kind) ∧
      (∀ node ∈ r.tokens.nodes, isIdentifier node = true) ∧
      (r.tokens.WellFormed ↔ isIdentifier r.name = true ∧ Quotable r.declarationExt) := by
  intro r
  have hv : (⟨"_x1", true, ["B", "A"], "h", "c"⟩ : Request).validate = .ok () := rfl
  have h : r.Accepted r.asParams := Request.accepted_asParams hv
  exact ⟨h, wellFormed_tokens_iff h⟩

/-- A request that breaks no rule, whose namespace and classes are no identifiers and whose header
ends early. -/
theorem not_wellFormed_tokens :
    let r : Request := ⟨"a-b", false, [], "h\"i", "c"⟩
    r.Accepted r.asParams ∧ r.text .definition = r.layout .definition ∧
      isIdentifier r.tokens.guard = false ∧ isIdentifier r.tokens.names.space = false ∧
      isIdentifier r.tokens.names.backend = false ∧ ¬ Quotable r.tokens.header := by
  intro r
  have hv : (⟨"a-b", false, [], "h\"i", "c"⟩ : Request).validate = .ok () := rfl
  exact ⟨Request.accepted_asParams hv, Request.text_eq_layout _, by decide, by decide, by decide,
    by decide⟩

end Scaffold
