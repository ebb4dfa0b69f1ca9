import Scaffold.Proofs.Tokens

/-!
The request behind a pair of artifacts.

An extension has no dot, so a path falls apart at its last one into the name and the extension.
Nodes are identifiers, so in a method that visits a node the node ends at the first blank, and a
list of methods can be read off its text from the front. So two requests have the same artifacts
just if they have the same settings, but for nodes that no visitor visits.
-/
namespace Scaffold

/-! ### Texts that can be taken apart -/

/-- What comes before a character that is not in it ends at the first such character. -/
theorem append_cons_inj_left {c : Char} {xs xs' ys ys' : List Char} (hxs : c ∉ xs) (hxs' : c ∉ xs')
    (h : xs ++ c :: ys = xs' ++ c :: ys') : xs = xs' ∧ ys = ys' := by
  induction xs generalizing xs' with
  | nil =>
    cases xs' with
    | nil => exact ⟨rfl, (List.cons.inj h).2⟩
    | cons x xs' =>
      obtain ⟨rfl, -⟩ := List.cons.inj h
      exact absurd List.mem_cons_self hxs'
  | cons x xs ih =>
    cases xs' with
    | nil =>
      obtain ⟨rfl, -⟩ := List.cons.inj h
      exact absurd List.mem_cons_self hxs
    | cons x' xs' =>
      obtain ⟨rfl, hrest⟩ := List.cons.inj h
      obtain ⟨rfl, rfl⟩ := ih (List.not_mem_of_not_mem_cons hxs) (List.not_mem_of_not_mem_cons hxs')
        hrest
      exact ⟨rfl, rfl⟩

/-- What comes after a character that is not in it begins after the last such character. -/
theorem append_cons_inj_right {c : Char} {xs xs' ys ys' : List Char} (hys : c ∉ ys)
    (hys' : c ∉ ys') (h : xs ++ c :: ys = xs' ++ c :: ys') : xs = xs' ∧ ys = ys' := by
  have hrev : ys.reverse ++ c :: xs.reverse = ys'.reverse ++ c :: xs'.reverse := by
    simpa using congrArg List.reverse h
  obtain ⟨hy, hx⟩ := append_cons_inj_left (by simpa using hys) (by simpa using hys') hrev
  exact ⟨List.reverse_inj.1 hx, List.reverse_inj.1 hy⟩

section

variable {α : Type} {p : α → Prop} {write : α → List Char}

/-- Each text tells by itself where it ends, whatever follows. -/
def SelfDelimiting (p : α → Prop) (write : α → List Char) : Prop :=
  ∀ ⦃x y⦄, p x → p y → ∀ ⦃u v⦄, write x ++ u = write y ++ v → x = y ∧ u = v

theorem SelfDelimiting.flatMap_inj (hw : SelfDelimiting p write) {c : Char} {xs ys : List α}
    (hxs : ∀ x ∈ xs, p x) (hys : ∀ y ∈ ys, p y)
    (h : xs.flatMap (fun x => c :: write x) = ys.flatMap (fun y => c :: write y)) : xs = ys := by
  -- one item after the other is taken off the front of both texts
  induction xs generalizing ys with
  | nil =>
    cases ys with
    | nil => rfl
    | cons y ys => simp at h
  | cons x xs ih =>
    cases ys with
    | nil => simp at h
    | cons y ys =>
      obtain ⟨hx, hxs'⟩ := List.forall_mem_cons.1 hxs
      obtain ⟨hy, hys'⟩ := List.forall_mem_cons.1 hys
      rw [List.flatMap_cons, List.flatMap_cons] at h
      obtain ⟨rfl, hrest⟩ := hw hx hy (List.cons.inj h).2
      rw [ih hxs' hys' hrest]

theorem intercalate_cons_eq_flatMap (c : Char) (text : List Char) (texts : List (List Char)) :
    [c].intercalate (text :: texts) = text ++ texts.flatMap (c :: ·) := by
  induction texts generalizing text with
  | nil => simp
  | cons next texts ih =>
    rw [List.intercalate_cons_cons, ih next]
    simp

/-- A list can be read off its texts with a separator between any two. -/
theorem SelfDelimiting.intercalate_inj (hw : SelfDelimiting p write) (hne : ∀ x, write x ≠ [])
    {c : Char} {xs ys : List α} (hxs : ∀ x ∈ xs, p x) (hys : ∀ y ∈ ys, p y)
    (h : [c].intercalate (xs.map write) = [c].intercalate (ys.map write)) : xs = ys := by
  cases xs with
  | nil =>
    cases ys with
    | nil => rfl
    | cons y ys =>
      rw [List.map_cons, intercalate_cons_eq_flatMap] at h
      exact absurd (List.append_eq_nil_iff.1 h.symm).1 (hne y)
  | cons x xs =>
    cases ys with
    | nil =>
      rw [List.map_cons, intercalate_cons_eq_flatMap] at h
      exact absurd (List.append_eq_nil_iff.1 h).1 (hne x)
    | cons y ys =>
      obtain ⟨hx, hxs'⟩ := List.forall_mem_cons.1 hxs
      obtain ⟨hy, hys'⟩ := List.forall_mem_cons.1 hys
      rw [List.map_cons, List.map_cons, intercalate_cons_eq_flatMap,
        intercalate_cons_eq_flatMap] at h
      obtain ⟨rfl, hrest⟩ := hw hx hy h
      simp only [List.flatMap_map] at hrest
      rw [hw.flatMap_inj hxs' hys' hrest]

end

/-! ### Paths -/

namespace Request

variable {r r₁ r₂ : Request} {kind : ArtifactKind} {path text : String}

/-- The name and the extension can be read off a path, whichever artifact it is of. -/
theorem path_inj {kind₁ kind₂ : ArtifactKind} (h₁ : r₁.validate = .ok ()) (h₂ : r₂.validate = .ok ())
    (h : r₁.path kind₁ = r₂.path kind₂) :
    r₁.name = r₂.name ∧ r₁.extension kind₁ = r₂.extension kind₂ := by
  have hdot {r : Request} (h : r.validate = .ok ()) (kind : ArtifactKind) :
      '.' ∉ (r.extension kind).toList := by
    intro hmem
    exact (((accepted_asParams h).proper.extension kind).bare '.' hmem).1 rfl
  -- the name may hold dots as well, but the extension does not, so its dot is the last one
  have hpath (r : Request) (kind : ArtifactKind) : (r.path kind).toList =
      (r.name ++ "_backend").toList ++ '.' :: (r.extension kind).toList := by
    simp [path]
  have hlist := congrArg String.toList h
  rw [hpath, hpath] at hlist
  obtain ⟨hname, hext⟩ := append_cons_inj_right (hdot h₁ kind₁) (hdot h₂ kind₂) hlist
  have hstem := String.toList_inj.1 hname
  exact ⟨(String.append_left_inj "_backend").1 hstem, String.toList_inj.1 hext⟩

end Request

/-! ### Texts -/

namespace CodeNames

variable {names : CodeNames} {nodes nodes' : List String}

theorem blank_not_mem_of_isIdentifier {node : String} (h : isIdentifier node = true) :
    ' ' ∉ node.toList := by
  intro hmem
  have hpart : isIdentifierPart ' ' = true :=
    List.all_eq_true.1 (all_isIdentifierPart h) ' ' hmem
  revert hpart
  decide

/-- A method ends at the first blank after its node, but for text that is always the same. -/
theorem selfDelimiting_visitDefinition (names : CodeNames) :
    SelfDelimiting (isIdentifier · = true) fun node => (names.visitDefinition node).toList := by
  intro x y hx hy u v h
  simp only [visitDefinition, String.toList_append, List.append_assoc,
    List.append_cancel_left_eq] at h
  -- what comes right after the node in either method begins with a blank
  obtain ⟨hnode, hrest⟩ := append_cons_inj_left (blank_not_mem_of_isIdentifier hx)
    (blank_not_mem_of_isIdentifier hy) h
  refine ⟨String.toList_inj.1 hnode, ?_⟩
  simpa using hrest

theorem visitorBlock_inj (hn : ∀ node ∈ nodes, isIdentifier node = true)
    (hn' : ∀ node ∈ nodes', isIdentifier node = true)
    (h : names.visitorBlock nodes = names.visitorBlock nodes') : nodes = nodes' := by
  simp only [visitorBlock, String.append_left_inj, String.append_right_inj] at h
  have hlist := congrArg String.toList h
  simp only [String.toList_intercalate, List.map_map] at hlist
  refine names.selfDelimiting_visitDefinition.intercalate_inj (fun node => ?_) hn hn' hlist
  simp [visitDefinition]

theorem visitorBlock_ne_empty (names : CodeNames) (nodes : List String) :
    names.visitorBlock nodes ≠ "" := by
  simp [visitorBlock]

end CodeNames

/-- A body puts one text only after what a sink holds. -/
theorem Emits.unique {body : Body} {params : Params} {text text' : String}
    (h : Emits body params text) (h' : Emits body params text') : text = text' := by
  have hruns := (h ⟨"", ""⟩ .empty).symm.trans (h' ⟨"", ""⟩ .empty)
  have hcontents := congrArg (fun run => run.1.2.contents) hruns
  simpa using hcontents

namespace Request

variable {r r₁ r₂ : Request} {kind : ArtifactKind} {path text : String}

/-- A request that breaks no rule is expanded into an artifact: its template is rendered to a path,
and its body emits a text. -/
structure Produces (r : Request) (kind : ArtifactKind) (path text : String) : Prop where
  valid : r.validate = .ok ()
  assigned : ∃ a, Assignment.ofDescriptor r.asParams kind.descriptor = .ok a ∧ a.path = path ∧
    Emits a.body a.params text

theorem produces (h : r.validate = .ok ()) (kind : ArtifactKind) :
    r.Produces kind (r.path kind) (r.text kind) :=
  ⟨h, r.assignment kind, r.ofDescriptor_asParams kind, rfl, emits_join (r.fragments_derived kind)⟩

theorem Produces.eq (h : r.Produces kind path text) : path = r.path kind ∧ text = r.text kind := by
  obtain ⟨hv, a, ha, hpath, hemits⟩ := h
  rw [r.ofDescriptor_asParams] at ha
  cases ha
  exact ⟨hpath.symm, hemits.unique (emits_join (r.fragments_derived kind))⟩

/-- The visitor, and the nodes that it visits, can be read off a definition. -/
theorem text_definition_inj (h₁ : r₁.validate = .ok ()) (h₂ : r₂.validate = .ok ())
    (hname : r₁.name = r₂.name) (hext : r₁.declarationExt = r₂.declarationExt)
    (h : r₁.text .definition = r₂.text .definition) :
    r₁.astVisitor = r₂.astVisitor ∧ (r₁.astVisitor = true → r₁.nodes = r₂.nodes) := by
  have hnodes₁ := isIdentifier_of_nodesDefect? (validate_eq_ok_iff.1 h₁).2.1
  have hnodes₂ := isIdentifier_of_nodesDefect? (validate_eq_ok_iff.1 h₂).2.1
  have hheader : r₁.headerName = r₂.headerName := by rw [headerName, headerName, hname, hext]
  rw [text_eq_layout, text_eq_layout] at h
  -- what stands before and after the methods depends on the name and the header alone
  simp only [layout, tokens, hname, hheader, String.append_left_inj, String.append_right_inj] at h
  cases hv₁ : r₁.astVisitor with
  | false =>
    cases hv₂ : r₂.astVisitor with
    | false => exact ⟨rfl, fun hv => absurd hv Bool.false_ne_true⟩
    | true =>
      simp only [hv₁, hv₂, if_true, Bool.false_eq_true, if_false] at h
      exact absurd h.symm (CodeNames.visitorBlock_ne_empty _ _)
  | true =>
    cases hv₂ : r₂.astVisitor with
    | false =>
      simp only [hv₁, hv₂, if_true, Bool.false_eq_true, if_false] at h
      exact absurd h (CodeNames.visitorBlock_ne_empty _ _)
    | true =>
      simp only [hv₁, hv₂, if_true] at h
      exact ⟨rfl, fun _ => CodeNames.visitorBlock_inj hnodes₁ hnodes₂ h⟩

/-- The settings of a request that its artifacts depend on. -/
structure SameSettings (r₁ r₂ : Request) : Prop where
  name : r₁.name = r₂.name
  astVisitor : r₁.astVisitor = r₂.astVisitor
  declarationExt : r₁.declarationExt = r₂.declarationExt
  definitionExt : r₁.definitionExt = r₂.definitionExt
  nodes : r₁.astVisitor = true → r₁.nodes = r₂.nodes

theorem SameSettings.path_eq (h : SameSettings r₁ r₂) (kind : ArtifactKind) :
    r₁.path kind = r₂.path kind := by
  cases kind with
  | declaration => rw [path, path, extension, extension, h.name, h.declarationExt]
  | definition => rw [path, path, extension, extension, h.name, h.definitionExt]

theorem SameSettings.text_eq (h : SameSettings r₁ r₂) (kind : ArtifactKind) :
    r₁.text kind = r₂.text kind := by
  have hguard : r₁.guardName = r₂.guardName := by rw [guardName, guardName, h.name]
  have hheader : r₁.headerName = r₂.headerName := by
    rw [headerName, headerName, h.name, h.declarationExt]
  rw [text_eq_layout, text_eq_layout]
  cases hv : r₁.astVisitor with
  | false =>
    have hv₂ : r₂.astVisitor = false := h.astVisitor ▸ hv
    cases kind <;> simp [layout, tokens, h.name, hguard, hheader, hv, hv₂]
  | true =>
    have hv₂ : r₂.astVisitor = true := h.astVisitor ▸ hv
    cases kind <;> simp [layout, tokens, h.name, hguard, hheader, hv, hv₂, h.nodes hv]

end Request

open Request in
/-- Two requests are expanded into the same pair of artifacts, with the same paths and the same
texts, just if they have the same settings. Nodes are no matter where there is no visitor, as they
are not written at all. -/
theorem produces_eq_iff {r₁ r₂ : Request} {path₁ text₁ path₂ text₂ : ArtifactKind → String}
    (h₁ : ∀ kind, r₁.Produces kind (path₁ kind) (text₁ kind))
    (h₂ : ∀ kind, r₂.Produces kind (path₂ kind) (text₂ kind)) :
    path₁ = path₂ ∧ text₁ = text₂ ↔ SameSettings r₁ r₂ := by
  have hpath₁ : path₁ = r₁.path := funext fun kind => (h₁ kind).eq.1
  have hpath₂ : path₂ = r₂.path := funext fun kind => (h₂ kind).eq.1
  have htext₁ : text₁ = r₁.text := funext fun kind => (h₁ kind).eq.2
  have htext₂ : text₂ = r₂.text := funext fun kind => (h₂ kind).eq.2
  have hv₁ := (h₁ .declaration).valid
  have hv₂ := (h₂ .declaration).valid
  subst hpath₁ hpath₂ htext₁ htext₂
  constructor
  · rintro ⟨hpath, htext⟩
    obtain ⟨hname, hdecl⟩ := path_inj hv₁ hv₂ (congrFun hpath .declaration)
    obtain ⟨-, hdef⟩ := path_inj hv₁ hv₂ (congrFun hpath .definition)
    obtain ⟨hvisitor, hnodes⟩ :=
      text_definition_inj hv₁ hv₂ hname hdecl (congrFun htext .definition)
    exact ⟨hname, hvisitor, hdecl, hdef, hnodes⟩
  · intro h
    exact ⟨funext h.path_eq, funext h.text_eq⟩

/-- A name that looks like a path and a template, without a visitor and with other nodes. -/
theorem produces_eq_iff_unvisited :
    let r₁ : Request := ⟨"a_backend.\x7b\x7bname\x7d\x7d", false, ["A", "B"], "h", "c"⟩
    let r₂ : Request := ⟨"a_backend.\x7b\x7bname\x7d\x7d", false, ["C"], "h", "c"⟩
    (∀ kind, r₁.Produces kind (r₁.path kind) (r₁.text kind)) ∧
      (∀ kind, r₂.Produces kind (r₂.path kind) (r₂.text kind)) ∧
      (r₁.path = r₂.path ∧ r₁.text = r₂.text ↔ r₁.SameSettings r₂) ∧ r₁.SameSettings r₂ := by
  intro r₁ r₂
  have hv₁ : (⟨"a_backend.\x7b\x7bname\x7d\x7d", false, ["A", "B"], "h", "c"⟩ : Request).validate =
    .ok () := rfl
  have hv₂ : (⟨"a_backend.\x7b\x7bname\x7d\x7d", false, ["C"], "h", "c"⟩ : Request).validate =
    .ok () := rfl
  have h₁ (kind : ArtifactKind) : r₁.Produces kind (r₁.path kind) (r₁.text kind) :=
    Request.produces hv₁ kind
  have h₂ (kind : ArtifactKind) : r₂.Produces kind (r₂.path kind) (r₂.text kind) :=
    Request.produces hv₂ kind
  exact ⟨h₁, h₂, produces_eq_iff h₁ h₂, rfl, rfl, rfl, rfl, fun hv => absurd hv Bool.false_ne_true⟩

end Scaffold
