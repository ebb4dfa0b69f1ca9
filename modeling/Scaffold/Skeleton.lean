import Scaffold.Artifact
import Scaffold.Cursor
import Scaffold.Vocabulary

/-!
The text of the two artifacts, as the list of fragments it is written in.

A declaration lists the visited nodes in ascending order, a definition in the order they are given.
Without the visitor, the declaration lacks the visitor class and the definition the bodies of its
methods.
-/
namespace Scaffold

/-- What the text of a declaration depends on. -/
structure Declaration where
  name : String
  astVisitor : Bool
  nodes : List String
  guard : String
  deriving DecidableEq, Repr

namespace Declaration

def ofParams (p : Params) : Except Failure Declaration := do
  let name ← p.str "name"
  let astVisitor ← p.bool "ast_visitor"
  let nodes ← p.list "nodes"
  let guard ← p.str "guard"
  .ok ⟨name, astVisitor, nodes, guard⟩

def standardIncludes : String :=
  "#include <sstream>\n#include <string>\n\nusing namespace std;\n\n" ++
  "#include \"ast.hpp\"\n#include \"backend.hpp\"\n#include \"common.hpp\"\n" ++
  "#include \"data.hpp\"\n#include \"type.hpp\"\n"

def visitLine (node : String) : String :=
  "            virtual void visit(ast::" ++ node ++ " *);\n"

/-- The visitor class. -/
def visitorClass (d : Declaration) : List String :=
  ("    class " ++ Text.title d.name
    ++ "Body : public ast::AST_Visitor\n    \x7b\n        public:\n")
  :: (sortedNodes d.nodes).map visitLine ++ ["    \x7d;\n"]

def opening (d : Declaration) : List String := [
  "#ifndef " ++ d.guard ++ "\n#define " ++ d.guard ++ "\n\n",
  standardIncludes,
  "\nnamespace " ++ Text.lower d.name ++ "_backend\n\x7b\n"]

def backendClasses (d : Declaration) : List String := [
  "\n    class " ++ Text.title d.name ++ "Backend : public Backend\n    \x7b\n        public:\n",
  "            void generate(ostream &, const vector<symbol::Argument *> &,\n",
  "                          ast::Statements *);\n",
  "    \x7d;\n",
  "\n    class " ++ Text.title d.name
    ++ "TgpBackend : public TgpBackend\n    \x7b\n        public:\n",
  "            void generate(ostream &, ParseData *, map<string, ParseData *> &);\n",
  "    \x7d;\n",
  "\x7d\n\n#endif\n"]

def fragments (d : Declaration) : List String :=
  d.opening ++ (if d.astVisitor then d.visitorClass else []) ++ d.backendClasses

end Declaration

/-- What the text of a definition depends on. -/
structure Definition where
  name : String
  astVisitor : Bool
  nodes : List String
  header : String
  deriving DecidableEq, Repr

namespace Definition

def ofParams (p : Params) : Except Failure Definition := do
  let name ← p.str "name"
  let astVisitor ← p.bool "ast_visitor"
  let nodes ← p.list "nodes"
  let header ← p.str "header"
  .ok ⟨name, astVisitor, nodes, header⟩

def visitBody (title node : String) : String :=
  "    void " ++ title ++ "Body::visit(ast::" ++ node ++ " *)\n    \x7b\n\n    \x7d\n"

/-- One method body, with a blank line after it unless it is the last. -/
def visitFragments (title : String) (position : Position) (node : String) : List String :=
  visitBody title node :: if position.last then [] else ["\n"]

/-- The namespace block with the visitor's methods, under its banner. -/
def visitorBlock (d : Definition) : List String :=
  ["/*\n *\n */\n", "namespace " ++ Text.lower d.name ++ "_backend\n\x7b\n"]
  ++ (positioned d.nodes.toArray).flatMap
    (fun (position, node) => visitFragments (Text.title d.name) position node)
  ++ ["\x7d\n"]

def opening (d : Definition) : List String := ["#include \"" ++ d.header ++ "\"\n\n"]

def entryPoints (d : Definition) : List String := [
  "\nnamespace " ++ Text.lower d.name ++ "_backend\n\x7b\n",
  "    void " ++ Text.title d.name ++ "Backend::generate(ostream &os,\n",
  "                             const vector<symbol::Argument *> &args,\n",
  "                             ast::Statements *body)\n",
  "    \x7b\n\n    \x7d\n\n",
  "    void " ++ Text.title d.name ++ "TgpBackend::generate(ostream &os, ParseData *tgp_data,\n",
  "                                map<string, ParseData *> &tgl_data)\n",
  "    \x7b\n\n    \x7d\n",
  "\x7d\n"]

def fragments (d : Definition) : List String :=
  d.opening ++ (if d.astVisitor then d.visitorBlock else []) ++ d.entryPoints

end Definition

/-- The fragments that a body makes of its parameters; a whole backend has no text of its own. -/
def Body.fragments (p : Params) : Body → Except Failure (List String)
  | .backend => .ok []
  | .declaration => (Declaration.ofParams p).map Declaration.fragments
  | .definition => (Definition.ofParams p).map Definition.fragments

end Scaffold
