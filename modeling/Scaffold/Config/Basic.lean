import Scaffold.Json.Printer
import Scaffold.Request

/-!
Configurations: the settings of a request that are kept in a file.
-/
namespace Scaffold

structure Config where
  name : Option String
  astVisitor : Bool
  outputDirectory : Option String
  nodes : Option (List String)
  declarationExt : String
  definitionExt : String
  deriving DecidableEq, Repr

namespace Config

/-- Nothing is set, and the extensions are empty. -/
def blank : Config := ⟨none, false, none, none, "", ""⟩

/-- What is in force without a file: nothing is set, and the extensions are the usual ones. -/
def standard : Config :=
  { blank with
    declarationExt := Request.defaultDeclarationExt
    definitionExt := Request.defaultDefinitionExt }

/-- A configuration to start from, with the built-in nodes spelled out. -/
def starter : Config := { standard with nodes := some builtinNodes }

def outputDir (c : Config) : String := c.outputDirectory.getD "."

/-- The request of a configuration that has a name. -/
def toRequest (c : Config) : Except Failure Request :=
  match c.name with
  | none => .error (.invalidParameter "name" .noName)
  | some name => do
    let request : Request :=
      ⟨name, c.astVisitor, c.nodes.getD builtinNodes, c.declarationExt, c.definitionExt⟩
    request.validate
    .ok request

/-- A member for a setting that may be left out. -/
def optional {α : Type} (key : String) (write : α → Json) : Option α → List (String × Json)
  | none => []
  | some v => [(key, write v)]

/-- The settings in their order, those left out that are not set. -/
def toJson (c : Config) : Json :=
  .object <|
    optional "name" .string c.name
    ++ [("ast_visitor", .bool c.astVisitor)]
    ++ optional "output_directory" .string c.outputDirectory
    ++ optional "nodes" (fun nodes => .array (nodes.map .string)) c.nodes
    ++ [("declaration_ext", .string c.declarationExt),
      ("definition_ext", .string c.definitionExt)]

/-- The text of a configuration, without a line end after it. -/
def text (c : Config) : String := c.toJson.print .pretty

end Config

end Scaffold
