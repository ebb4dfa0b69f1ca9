import Scaffold.Params.Json
import Scaffold.Template.Render

/-!
The artifacts of a backend and how each is named and derived from a request.
-/
namespace Scaffold

inductive ArtifactKind where
  | declaration
  | definition
  deriving DecidableEq, Repr

def ArtifactKind.text : ArtifactKind → String
  | .declaration => "declaration"
  | .definition => "definition"

/-- What a set of parameters is expanded into: a whole backend, or the text of one artifact. -/
inductive Body where
  | backend
  | declaration
  | definition
  deriving DecidableEq, Repr

/-- The name of a body in messages; the outermost one has none. -/
def Body.id : Body → String
  | .backend => ""
  | .declaration | .definition => "backend-file.tgl"

/-- How one artifact is generated: the template of its path, the parameters that are rendered for
it, and those that it takes over. -/
structure Descriptor where
  kind : ArtifactKind
  fileName : String
  overrides : List (String × String)
  inherits : List String
  body : Body

/-- A tag around some text. -/
def tagged (inside : String) : String := "\x7b\x7b" ++ inside ++ "\x7d\x7d"

def inheritedKeys : List String := ["name", "ast_visitor", "nodes"]

def declarationDescriptor : Descriptor where
  kind := .declaration
  fileName := tagged "name" ++ "_backend." ++ tagged "declaration_ext"
  overrides := [("guard", "__" ++ tagged "upper name" ++ "_BACKEND_H__")]
  inherits := inheritedKeys
  body := .declaration

def definitionDescriptor : Descriptor where
  kind := .definition
  fileName := tagged "name" ++ "_backend." ++ tagged "definition_ext"
  overrides := [("header", tagged "lower name" ++ "_backend." ++ tagged "declaration_ext")]
  inherits := inheritedKeys
  body := .definition

/-- The artifacts of a backend, in the order they are generated. -/
def backendArtifacts : List Descriptor := [declarationDescriptor, definitionDescriptor]

namespace Descriptor

/-- Each override with its template rendered. -/
def renderOverrides (context : Json) : List (String × String) →
    Except Failure (List (String × String))
  | [] => .ok []
  | (key, template) :: rest => do
    let text ← renderTemplate template context
    let more ← renderOverrides context rest
    .ok ((key, text) :: more)

/-- String overrides as parameters. -/
def asParamValues (overrides : List (String × String)) : List (String × ParamValue) :=
  overrides.map fun (key, text) => (key, .str text)

theorem canonical_asParamValues {overrides : List (String × String)} :
    ∀ e ∈ asParamValues overrides, e.2.Canonical := by
  intro e he
  obtain ⟨o, _, rfl⟩ := List.mem_map.1 he
  simp

/-- The parameters of an artifact, derived from those of the backend. -/
def derive (d : Descriptor) (root : Params) : Except Failure Params := do
  let overrides ← renderOverrides root.toJson d.overrides
  .ok (root.derive d.inherits (asParamValues overrides) canonical_asParamValues)

def path (d : Descriptor) (root : Params) : Except Failure String :=
  renderTemplate d.fileName root.toJson

end Descriptor

end Scaffold
