import Scaffold.Params.Basic
import Scaffold.Text.Blank
import Scaffold.Text.Casing
import Scaffold.Vocabulary

/-!
Requests for a backend: the component's name, the nodes and the file extensions, with the rules
that keep generated names and tokens well formed.
-/
namespace Scaffold

structure Request where
  name : String
  astVisitor : Bool
  nodes : List String
  declarationExt : String
  definitionExt : String
  deriving DecidableEq, Repr

namespace Request

def defaultDeclarationExt : String := "hpp"
def defaultDefinitionExt : String := "cpp"

/-- A request with every setting but the name at its default. -/
def named (name : String) : Request :=
  ⟨name, false, builtinNodes, defaultDeclarationExt, defaultDefinitionExt⟩

def isSeparator (c : Char) : Bool := c = '/' || c = '\\'

def nameDefect? (name : String) : Option Defect :=
  if name.isEmpty then some .emptyName
  else if name.toList.any fun c => Text.isBlank c || isSeparator c then some (.nameCharacters name)
  else if name.toList.all Text.isAscii then none
  else some (.nameNotAscii name)

/-- The first node that is no identifier or was seen before. -/
def nodesDefect? (seen : List String) : List String → Option Defect
  | [] => none
  | node :: rest =>
    if !isIdentifier node then some (.notIdentifier node)
    else if seen.contains node then some (.repeatedNode node)
    else nodesDefect? (node :: seen) rest

/-- A bare extension is not empty and has no dot and no separator. -/
def extensionDefect? (extension : String) : Option Defect :=
  if extension.isEmpty || extension.toList.any (fun c => c = '.' || isSeparator c) then
    some (.notExtension extension)
  else none

/-- The keys a request is made of, each with what is wrong with its setting. -/
def defects (r : Request) : List (String × Option Defect) := [
  ("name", nameDefect? r.name),
  ("nodes", nodesDefect? [] r.nodes),
  ("declaration_ext", extensionDefect? r.declarationExt),
  ("definition_ext", extensionDefect? r.definitionExt)]

/-- Blames the first setting that breaks its rule. -/
def validate (r : Request) : Except Failure Unit :=
  match r.defects.findSome? fun (key, defect?) => defect?.map (Failure.invalidParameter key) with
  | some failure => .error failure
  | none => .ok ()

/-- The request that parameters describe; everything but the name may be left out. -/
def ofParams (p : Params) : Except Failure Request := do
  let name ← p.str "name"
  let astVisitor ← p.boolOr "ast_visitor" false
  let nodes ← p.orElse "nodes" builtinNodes Params.list
  let declarationExt ← p.orElse "declaration_ext" defaultDeclarationExt Params.str
  let definitionExt ← p.orElse "definition_ext" defaultDefinitionExt Params.str
  .ok ⟨name, astVisitor, nodes, declarationExt, definitionExt⟩

/-- All settings as parameters. -/
def asParams (r : Request) : Params :=
  Params.empty
    |>.insert "name" (.str r.name)
    |>.insert "ast_visitor" (.bool r.astVisitor)
    |>.insert "nodes" (.list r.nodes)
    |>.insert "declaration_ext" (.str r.declarationExt)
    |>.insert "definition_ext" (.str r.definitionExt)

/-- The parameters of a request that breaks no rule. -/
def toParams (r : Request) : Except Failure Params := do
  r.validate
  .ok r.asParams

end Request

end Scaffold
