import Scaffold.Generation

/-!
The names that are derived from a request, and the job that a mapping describes.

Every template of a backend renders for every request, each setting being inserted as it is, and
the derived parameters are those that the body of the artifact reads. So a job fails only where its
request cannot be read or breaks a rule.
-/
namespace Scaffold

namespace Template

variable {context : Json}

theorem renderTemplate_of_read {source : String} {t : Template} {cs : List Char}
    (ht : Template.read source = .ok t) (hcs : renderPieces context t.pieces = .ok cs) :
    renderTemplate source context = .ok (String.ofList cs) := by
  rw [renderTemplate, ht]
  change t.render context = _
  rw [Template.render, hcs]
  rfl

theorem renderPieces_text {cs rest : List Char} {ps : List Piece}
    (h : renderPieces context ps = .ok rest) :
    renderPieces context (.text cs :: ps) = .ok (cs ++ rest) := by
  rw [renderPieces, h]
  rfl

/-- A tag whose value is a string leaves the string as it is. -/
theorem renderPieces_tag {line column : Nat} {t : Tag} {s : String} {rest : List Char}
    {ps : List Piece} (ht : t.eval context = .ok (.string s))
    (h : renderPieces context ps = .ok rest) :
    renderPieces context (.tag line column t :: ps) = .ok (s.toList ++ rest) := by
  rw [renderPieces, h, Piece.render, ht]
  rfl

/-- A template of two tags with a text between them. -/
theorem renderTemplate_between {source middle a b : String} {line₁ column₁ line₂ column₂ : Nat}
    {t u : Tag}
    (hread : Template.read source =
      .ok ⟨[.tag line₁ column₁ t, .text middle.toList, .tag line₂ column₂ u]⟩)
    (ht : t.eval context = .ok (.string a)) (hu : u.eval context = .ok (.string b)) :
    renderTemplate source context = .ok (a ++ middle ++ b) := by
  have h := renderTemplate_of_read hread
    (renderPieces_tag ht (renderPieces_text (renderPieces_tag hu rfl)))
  refine h.trans (congrArg Except.ok ?_)
  apply String.toList_inj.1
  simp

theorem lookup_member {members : List (String × Json)} {key : String} {v : Json}
    (h : members.lookup key = some v) : lookup (.object members) [key] = .ok (some v) := by
  rw [lookup, follow, h]
  rfl

theorem eval_show {members : List (String × Json)} {key : String} {v : Json}
    (hk : Casing.ofName? key = none) (h : members.lookup key = some v) :
    (Tag.show ⟨key, [key], false⟩).eval (.object members) = .ok v := by
  rw [Tag.eval]
  simp only [hk, Option.isSome_none, Route.eval, lookup_member h]
  rfl

theorem eval_call {members : List (String × Json)} {key s : String} (helper : Casing)
    (h : members.lookup key = some (.string s)) :
    (Tag.call helper.text [.route ⟨key, [key], false⟩]).eval (.object members) =
      .ok (.string (helper.apply s)) := by
  have hv : evalAll (.object members) [.route ⟨key, [key], false⟩] =
      .ok [some (.string s)] := by
    simp only [evalAll, Argument.eval, Route.eval, lookup_member h]
    rfl
  rw [Tag.eval, hv]
  cases helper <;> rfl

end Template

/-- How the artifact of a kind is named and derived. -/
def ArtifactKind.descriptor : ArtifactKind → Descriptor
  | .declaration => declarationDescriptor
  | .definition => definitionDescriptor

namespace Request

variable (r : Request)

def extension : ArtifactKind → String
  | .declaration => r.declarationExt
  | .definition => r.definitionExt

/-- The file name of an artifact. -/
def path (kind : ArtifactKind) : String := r.name ++ "_backend." ++ r.extension kind

/-- The include guard. -/
def guardName : String := "__" ++ Text.upper r.name ++ "_BACKEND_H__"

/-- The file that a definition includes. -/
def headerName : String := Text.lower r.name ++ "_backend." ++ r.declarationExt

def overrides : ArtifactKind → List (String × String)
  | .declaration => [("guard", r.guardName)]
  | .definition => [("header", r.headerName)]

/-- The parameters that the body of an artifact is expanded with. -/
def derived (kind : ArtifactKind) : Params :=
  r.asParams.derive inheritedKeys (Descriptor.asParamValues (r.overrides kind))
    Descriptor.canonical_asParamValues

def declaration : Declaration := ⟨r.name, r.astVisitor, r.nodes, r.guardName⟩

def definition : Definition := ⟨r.name, r.astVisitor, r.nodes, r.headerName⟩

def fragments : ArtifactKind → List String
  | .declaration => r.declaration.fragments
  | .definition => r.definition.fragments

/-- The complete text of an artifact. -/
def text (kind : ArtifactKind) : String := String.join (r.fragments kind)

def assignment (kind : ArtifactKind) : Assignment :=
  ⟨kind, r.path kind, kind.descriptor.body, r.derived kind⟩

def assignments : List Assignment := [r.assignment .declaration, r.assignment .definition]

/-- The members that the templates of a backend are rendered against. -/
def members : List (String × Json) := [
  ("ast_visitor", .bool r.astVisitor), ("declaration_ext", .string r.declarationExt),
  ("definition_ext", .string r.definitionExt), ("name", .string r.name),
  ("nodes", .array (r.nodes.map .string))]

theorem lookup_name : r.members.lookup "name" = some (.string r.name) := rfl

theorem lookup_declarationExt :
    r.members.lookup "declaration_ext" = some (.string r.declarationExt) := rfl

theorem lookup_definitionExt :
    r.members.lookup "definition_ext" = some (.string r.definitionExt) := rfl

theorem render_path (kind : ArtifactKind) :
    kind.descriptor.path r.asParams = .ok (r.path kind) := by
  have hname := Template.eval_show rfl r.lookup_name
  cases kind with
  | declaration =>
    have hread : Template.read declarationDescriptor.fileName = .ok ⟨[
        .tag 1 1 (.show ⟨"name", ["name"], false⟩), .text "_backend.".toList,
        .tag 1 18 (.show ⟨"declaration_ext", ["declaration_ext"], false⟩)]⟩ := rfl
    exact Template.renderTemplate_between hread hname
      (Template.eval_show rfl r.lookup_declarationExt)
  | definition =>
    have hread : Template.read definitionDescriptor.fileName = .ok ⟨[
        .tag 1 1 (.show ⟨"name", ["name"], false⟩), .text "_backend.".toList,
        .tag 1 18 (.show ⟨"definition_ext", ["definition_ext"], false⟩)]⟩ := rfl
    exact Template.renderTemplate_between hread hname
      (Template.eval_show rfl r.lookup_definitionExt)

theorem render_guard :
    renderTemplate ("__" ++ tagged "upper name" ++ "_BACKEND_H__") r.asParams.toJson =
      .ok r.guardName := by
  have hread : Template.read ("__" ++ tagged "upper name" ++ "_BACKEND_H__") = .ok ⟨[
      .text "__".toList, .tag 1 3 (.call "upper" [.route ⟨"name", ["name"], false⟩]),
      .text "_BACKEND_H__".toList]⟩ := rfl
  have h := Template.renderTemplate_of_read hread
    (Template.renderPieces_text (Template.renderPieces_tag
      (Template.eval_call .upper r.lookup_name) (Template.renderPieces_text rfl)))
  refine h.trans (congrArg Except.ok ?_)
  apply String.toList_inj.1
  simp [guardName, Template.Casing.apply]

theorem render_header :
    renderTemplate (tagged "lower name" ++ "_backend." ++ tagged "declaration_ext")
      r.asParams.toJson = .ok r.headerName := by
  have hread : Template.read (tagged "lower name" ++ "_backend." ++ tagged "declaration_ext") =
      .ok ⟨[.tag 1 1 (.call "lower" [.route ⟨"name", ["name"], false⟩]),
        .text "_backend.".toList,
        .tag 1 24 (.show ⟨"declaration_ext", ["declaration_ext"], false⟩)]⟩ := rfl
  exact Template.renderTemplate_between hread (Template.eval_call .lower r.lookup_name)
    (Template.eval_show rfl r.lookup_declarationExt)

theorem renderOverrides_asParams (kind : ArtifactKind) :
    Descriptor.renderOverrides r.asParams.toJson kind.descriptor.overrides =
      .ok (r.overrides kind) := by
  cases kind with
  | declaration =>
    change Descriptor.renderOverrides _ [("guard", _)] = _
    rw [Descriptor.renderOverrides, r.render_guard]
    rfl
  | definition =>
    change Descriptor.renderOverrides _ [("header", _)] = _
    rw [Descriptor.renderOverrides, r.render_header]
    rfl

theorem derive_asParams (kind : ArtifactKind) :
    kind.descriptor.derive r.asParams = .ok (r.derived kind) := by
  have hi : kind.descriptor.inherits = inheritedKeys := by cases kind <;> rfl
  rw [Descriptor.derive, r.renderOverrides_asParams, hi]
  rfl

theorem declaration_ofParams : Declaration.ofParams (r.derived .declaration) = .ok r.declaration :=
  rfl

theorem definition_ofParams : Definition.ofParams (r.derived .definition) = .ok r.definition := rfl

/-- The derived parameters are complete for the body that they are meant for. -/
theorem fragments_derived (kind : ArtifactKind) :
    kind.descriptor.body.fragments (r.derived kind) = .ok (r.fragments kind) := by
  cases kind with
  | declaration => exact congrArg (Except.map Declaration.fragments) r.declaration_ofParams
  | definition => exact congrArg (Except.map Definition.fragments) r.definition_ofParams

theorem ofDescriptor_asParams (kind : ArtifactKind) :
    Assignment.ofDescriptor r.asParams kind.descriptor = .ok (r.assignment kind) := by
  have hk : kind.descriptor.kind = kind := by cases kind <;> rfl
  rw [Assignment.ofDescriptor, r.render_path, r.derive_asParams, hk]
  rfl

theorem ofDescriptors_asParams :
    Assignment.ofDescriptors r.asParams backendArtifacts = .ok r.assignments := by
  change Assignment.ofDescriptors _ [ArtifactKind.declaration.descriptor,
    ArtifactKind.definition.descriptor] = _
  rw [Assignment.ofDescriptors, Assignment.ofDescriptors, Assignment.ofDescriptors,
    r.ofDescriptor_asParams, r.ofDescriptor_asParams]
  rfl

/-- The mapping describes this request, which breaks no rule. -/
structure Accepted (params : Params) : Prop where
  read : Request.ofParams params = .ok r
  valid : r.validate = .ok ()

theorem ofParams_asParams : Request.ofParams r.asParams = .ok r := rfl

theorem accepted_asParams {r : Request} (h : r.validate = .ok ()) : r.Accepted r.asParams :=
  ⟨r.ofParams_asParams, h⟩

/-- What is reported of a mapping that describes no request, or one that breaks a rule. -/
def Rejected (params : Params) (failure : Failure) : Prop :=
  Request.ofParams params = .error failure ∨
    ∃ r, Request.ofParams params = .ok r ∧ r.validate = .error failure

end Request

namespace Job

theorem ofParams_accepted {r : Request} {params : Params} (h : r.Accepted params) :
    Job.ofParams params = .ok ⟨r, r.assignments⟩ := by
  rw [Job.ofParams, h.read]
  change (do r.validate; let as ← Assignment.ofDescriptors r.asParams backendArtifacts; _) = _
  rw [h.valid, r.ofDescriptors_asParams]
  rfl

theorem ofParams_rejected {params : Params} {failure : Failure}
    (h : Request.Rejected params failure) : Job.ofParams params = .error failure := by
  rcases h with h | ⟨r, hr, hv⟩
  · rw [Job.ofParams, h]
    rfl
  · rw [Job.ofParams, hr]
    change (do r.validate; _) = _
    rw [hv]
    rfl

/-- Every mapping is accepted or rejected. -/
theorem accepted_or_rejected (params : Params) :
    (∃ r : Request, r.Accepted params) ∨ ∃ failure, Request.Rejected params failure := by
  cases hr : Request.ofParams params with
  | error failure => exact Or.inr ⟨failure, Or.inl hr⟩
  | ok r =>
    cases hv : r.validate with
    | error failure => exact Or.inr ⟨failure, Or.inr ⟨r, hr, hv⟩⟩
    | ok _ => exact Or.inl ⟨r, hr, hv⟩

end Job

end Scaffold
