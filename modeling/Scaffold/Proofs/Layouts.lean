import Scaffold.Proofs.ByteOrder
import Scaffold.Proofs.Iteration
import Scaffold.Proofs.Stores

/-!
How the two artifacts of a component are laid out.

Each text consists of a part before the visitor and a part after it, which depend neither on the
nodes nor on whether there is a visitor. Between them stands the visitor's class, with a line for
each node in ascending order, or the block of its methods, with a blank line between any two.
-/
namespace Scaffold

/-- The names in the code of a component: its namespace and its three classes. -/
structure CodeNames where
  space : String
  visitor : String
  backend : String
  tgpBackend : String

def CodeNames.ofName (name : String) : CodeNames where
  space := Text.lower name ++ "_backend"
  visitor := Text.title name ++ "Body"
  backend := Text.title name ++ "Backend"
  tgpBackend := Text.title name ++ "TgpBackend"

namespace CodeNames

variable (names : CodeNames)

/-- A declaration before the visitor's class. -/
def declarationHead (guard : String) : String :=
  "#ifndef " ++ guard ++ "\n#define " ++ guard ++ "\n\n" ++
  "#include <sstream>\n#include <string>\n\nusing namespace std;\n\n" ++
  "#include \"ast.hpp\"\n#include \"backend.hpp\"\n#include \"common.hpp\"\n" ++
  "#include \"data.hpp\"\n#include \"type.hpp\"\n" ++
  "\nnamespace " ++ names.space ++ "\n\x7b\n"

/-- The line that declares the visit of a node. -/
def visitDeclaration (node : String) : String :=
  "            virtual void visit(ast::" ++ node ++ " *);\n"

/-- The visitor's class, which declares the visits of some nodes. -/
def visitorClass (nodes : List String) : String :=
  "    class " ++ names.visitor ++ " : public ast::AST_Visitor\n    \x7b\n        public:\n" ++
  String.join (nodes.map visitDeclaration) ++
  "    \x7d;\n"

/-- A declaration after the visitor's class: the two classes of the backend. -/
def declarationTail : String :=
  "\n    class " ++ names.backend ++ " : public Backend\n    \x7b\n        public:\n" ++
  "            void generate(ostream &, const vector<symbol::Argument *> &,\n" ++
  "                          ast::Statements *);\n" ++
  "    \x7d;\n" ++
  "\n    class " ++ names.tgpBackend ++ " : public TgpBackend\n    \x7b\n        public:\n" ++
  "            void generate(ostream &, ParseData *, map<string, ParseData *> &);\n" ++
  "    \x7d;\n" ++
  "\x7d\n\n#endif\n"

/-- A definition before the visitor's methods: the line that includes the header. -/
def definitionHead (header : String) : String := "#include \"" ++ header ++ "\"\n\n"

/-- The empty method that visits a node. -/
def visitDefinition (node : String) : String :=
  "    void " ++ names.visitor ++ "::visit(ast::" ++ node ++ " *)\n    \x7b\n\n    \x7d\n"

/-- The visitor's methods in their namespace, under a banner. -/
def visitorBlock (nodes : List String) : String :=
  "/*\n *\n */\n" ++
  "namespace " ++ names.space ++ "\n\x7b\n" ++
  "\n".intercalate (nodes.map names.visitDefinition) ++
  "\x7d\n"

/-- A definition after the visitor's methods: the two entry points of the backend. -/
def definitionTail : String :=
  "\nnamespace " ++ names.space ++ "\n\x7b\n" ++
  "    void " ++ names.backend ++ "::generate(ostream &os,\n" ++
  "                             const vector<symbol::Argument *> &args,\n" ++
  "                             ast::Statements *body)\n" ++
  "    \x7b\n\n    \x7d\n\n" ++
  "    void " ++ names.tgpBackend ++ "::generate(ostream &os, ParseData *tgp_data,\n" ++
  "                                map<string, ParseData *> &tgl_data)\n" ++
  "    \x7b\n\n    \x7d\n" ++
  "\x7d\n"

end CodeNames

namespace Declaration

variable (d : Declaration)

theorem join_opening :
    String.join d.opening = (CodeNames.ofName d.name).declarationHead d.guard := by
  -- the fragment after a name holds the end of a longer name
  have hspace : "_backend\n\x7b\n" = "_backend" ++ "\n\x7b\n" := rfl
  unfold opening standardIncludes CodeNames.declarationHead CodeNames.ofName
  simp only [hspace, String.join_cons, String.join_nil, String.append_empty, String.append_assoc]

theorem join_visitorClass :
    String.join d.visitorClass = (CodeNames.ofName d.name).visitorClass (sortedNodes d.nodes) := by
  have hline : visitLine = CodeNames.visitDeclaration := rfl
  have hclass : "Body : public ast::AST_Visitor\n    \x7b\n        public:\n" =
    "Body" ++ " : public ast::AST_Visitor\n    \x7b\n        public:\n" := rfl
  unfold visitorClass CodeNames.visitorClass CodeNames.ofName
  simp only [hline, hclass, List.cons_append, String.join_cons, String.join_append,
    String.join_nil, String.append_empty, String.append_assoc]

theorem join_backendClasses :
    String.join d.backendClasses = (CodeNames.ofName d.name).declarationTail := by
  have hbackend : "Backend : public Backend\n    \x7b\n        public:\n" =
    "Backend" ++ " : public Backend\n    \x7b\n        public:\n" := rfl
  have htgp : "TgpBackend : public TgpBackend\n    \x7b\n        public:\n" =
    "TgpBackend" ++ " : public TgpBackend\n    \x7b\n        public:\n" := rfl
  unfold backendClasses CodeNames.declarationTail CodeNames.ofName
  simp only [hbackend, htgp, String.join_cons, String.join_nil, String.append_empty,
    String.append_assoc]

theorem join_fragments :
    String.join d.fragments = (CodeNames.ofName d.name).declarationHead d.guard ++
      (if d.astVisitor then (CodeNames.ofName d.name).visitorClass (sortedNodes d.nodes) else "") ++
      (CodeNames.ofName d.name).declarationTail := by
  rw [fragments, String.join_append, String.join_append, join_opening, join_backendClasses]
  cases d.astVisitor with
  | true => rw [if_pos rfl, if_pos rfl, join_visitorClass]
  | false => rw [if_neg Bool.false_ne_true, if_neg Bool.false_ne_true, String.join_nil]

end Declaration

namespace Definition

variable (d : Definition)

theorem join_opening : String.join d.opening = CodeNames.definitionHead d.header := by
  unfold opening CodeNames.definitionHead
  simp only [String.join_cons, String.join_nil, String.append_empty]

theorem visitBody_eq (name node : String) :
    visitBody (Text.title name) node = (CodeNames.ofName name).visitDefinition node := by
  have hvisit : "Body::visit(ast::" = "Body" ++ "::visit(ast::" := rfl
  unfold visitBody CodeNames.visitDefinition CodeNames.ofName
  simp only [hvisit, String.append_assoc]

/-- Bodies with the separators that their positions call for are bodies joined by separators. -/
theorem join_visitFragments (title : String) (nodes : List String) {front total : Nat}
    (h : total = front + nodes.length) :
    String.join ((nodes.mapIdx fun i node => (Position.of total (front + i), node)).flatMap
      fun (position, node) => visitFragments title position node) =
    "\n".intercalate (nodes.map (visitBody title)) := by
  -- on the nodes that are left; the last flag is set where there is no further node
  induction nodes generalizing front with
  | nil => simp
  | cons node rest ih =>
    have hshift (i : Nat) :
        Position.of total (front + (i + 1)) = Position.of total (front + 1 + i) :=
      congrArg _ (by omega)
    have hlength : total = front + 1 + rest.length := by
      rw [List.length_cons] at h
      omega
    have hrest := ih hlength
    simp only [List.mapIdx_cons, Nat.add_zero, hshift, List.flatMap_cons, String.join_append,
      hrest]
    cases rest with
    | nil =>
      have hlast : (Position.of total front).last = true := by
        simp [Position.of] at h ⊢
        omega
      simp [visitFragments, hlast]
    | cons next rest =>
      have hlast : (Position.of total front).last = false := by
        simp [Position.of] at h ⊢
        omega
      simp [visitFragments, hlast, String.append_assoc]

theorem join_visitorBlock :
    String.join d.visitorBlock = (CodeNames.ofName d.name).visitorBlock d.nodes := by
  have hspace : "_backend\n\x7b\n" = "_backend" ++ "\n\x7b\n" := rfl
  have hlength : d.nodes.length = 0 + d.nodes.length := (Nat.zero_add _).symm
  have hbodies := join_visitFragments (Text.title d.name) d.nodes hlength
  have hnames : visitBody (Text.title d.name) = (CodeNames.ofName d.name).visitDefinition :=
    funext (visitBody_eq d.name)
  simp only [Nat.zero_add, hnames] at hbodies
  rw [visitorBlock, positioned_eq, List.toList_toArray, List.size_toArray, String.join_append,
    String.join_append, hbodies]
  unfold CodeNames.visitorBlock CodeNames.ofName
  simp only [hspace, String.join_cons, String.join_nil, String.append_empty, String.append_assoc]

theorem join_entryPoints :
    String.join d.entryPoints = (CodeNames.ofName d.name).definitionTail := by
  have hspace : "_backend\n\x7b\n" = "_backend" ++ "\n\x7b\n" := rfl
  have hbackend : "Backend::generate(ostream &os,\n" = "Backend" ++ "::generate(ostream &os,\n" :=
    rfl
  have htgp : "TgpBackend::generate(ostream &os, ParseData *tgp_data,\n" =
    "TgpBackend" ++ "::generate(ostream &os, ParseData *tgp_data,\n" := rfl
  unfold entryPoints CodeNames.definitionTail CodeNames.ofName
  simp only [hspace, hbackend, htgp, String.join_cons, String.join_nil, String.append_empty,
    String.append_assoc]

theorem join_fragments :
    String.join d.fragments = CodeNames.definitionHead d.header ++
      (if d.astVisitor then (CodeNames.ofName d.name).visitorBlock d.nodes else "") ++
      (CodeNames.ofName d.name).definitionTail := by
  rw [fragments, String.join_append, String.join_append, join_opening, join_entryPoints]
  cases d.astVisitor with
  | true => rw [if_pos rfl, if_pos rfl, join_visitorBlock]
  | false => rw [if_neg Bool.false_ne_true, if_neg Bool.false_ne_true, String.join_nil]

end Definition

/-! ### Emission -/

/-- The parameters that the body of a declaration reads. -/
def Declaration.asParams (d : Declaration) : Params :=
  Params.empty
    |>.insert "name" (.str d.name)
    |>.insert "ast_visitor" (.bool d.astVisitor)
    |>.insert "nodes" (.list d.nodes)
    |>.insert "guard" (.str d.guard)

/-- The parameters that the body of a definition reads. -/
def Definition.asParams (d : Definition) : Params :=
  Params.empty
    |>.insert "name" (.str d.name)
    |>.insert "ast_visitor" (.bool d.astVisitor)
    |>.insert "nodes" (.list d.nodes)
    |>.insert "header" (.str d.header)

/-- Writing a body to a sink in memory succeeds, and appends a text to what the sink holds. -/
def Emits (body : Body) (params : Params) (text : String) : Prop :=
  ∀ (k : MemorySink) (store : MemoryStore),
    (body.write MemoryStore.provider.toSink params k).run store =
      ((.ok text.utf8ByteSize, ⟨k.path, k.contents ++ text⟩), store)

theorem emits_join {body : Body} {params : Params} {fs : List String}
    (hf : body.fragments params = .ok fs) : Emits body params (String.join fs) := by
  intro k store
  rw [Body.write_of_fragments hf]
  exact MemoryStore.run_write fs k store

/-- A declaration and a definition can always be written to memory, and their texts are the
layouts: with the visitor on, its class declares the visit of each node once, in ascending order, and
its methods stand in the order of the nodes with a blank line between any two. With the visitor off,
the texts lack just this class and this block. -/
theorem emits_layouts (name guard header : String) (nodes : List String) :
    let names := CodeNames.ofName name
    (∃ visited : List String, visited.Perm nodes ∧ Text.Ascending visited ∧
      Emits .declaration (Declaration.asParams ⟨name, true, nodes, guard⟩)
        (names.declarationHead guard ++ names.visitorClass visited ++ names.declarationTail)) ∧
    Emits .declaration (Declaration.asParams ⟨name, false, nodes, guard⟩)
      (names.declarationHead guard ++ names.declarationTail) ∧
    Emits .definition (Definition.asParams ⟨name, true, nodes, header⟩)
      (CodeNames.definitionHead header ++ names.visitorBlock nodes ++ names.definitionTail) ∧
    Emits .definition (Definition.asParams ⟨name, false, nodes, header⟩)
      (CodeNames.definitionHead header ++ names.definitionTail) := by
  intro names
  have hdecl (d : Declaration) : Emits .declaration d.asParams (String.join d.fragments) :=
    emits_join rfl
  have hdef (d : Definition) : Emits .definition d.asParams (String.join d.fragments) :=
    emits_join rfl
  simp only [Declaration.join_fragments] at hdecl
  simp only [Definition.join_fragments] at hdef
  refine ⟨⟨sortedNodes nodes, sortedNodes_perm nodes, ascending_sortedNodes nodes, ?_⟩, ?_, ?_, ?_⟩
  · exact hdecl ⟨name, true, nodes, guard⟩
  · have h := hdecl ⟨name, false, nodes, guard⟩
    rwa [if_neg Bool.false_ne_true, String.append_empty] at h
  · exact hdef ⟨name, true, nodes, header⟩
  · have h := hdef ⟨name, false, nodes, header⟩
    rwa [if_neg Bool.false_ne_true, String.append_empty] at h

end Scaffold
