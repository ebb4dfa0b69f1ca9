import Scaffold.Config.Basic
import Scaffold.Json.Reader

/-!
Reading configurations from JSON texts.

A configuration is an object with some of the six fields in any order, each at most once, or an
array of the first few of them in their order.
-/
namespace Scaffold

namespace Json

/-- Fails on a value of the wrong type. -/
def wrongType {α : Type} (wanted : Wanted) : Lead → List Char → Except Fault α
  | .scalar v, r => stop (.wrongType (.ofJson v) wanted) r
  | .array, r => stop (.wrongType .array wanted) r
  | .object, r => stop (.wrongType .object wanted) r

/-- A scalar that is taken for something, or a complaint that wants what it is for. -/
def readScalar {α : Type} (wanted : Wanted) (take : Json → Option α) : Reader α := fun s => do
  match ← lead s with
  | (.scalar v, r) =>
    match take v with
    | some x => .ok (x, r)
    | none => wrongType wanted (.scalar v) r
  | (found, r) => wrongType wanted found r

def readString (wanted : Wanted) : Reader String := readScalar wanted string?

def readBool : Reader Bool := readScalar .bool bool?

def readStrings : Reader (List String) := fun s => do
  match ← lead s with
  | (.array, r) => items (readString .string) (r.drop 1)
  | (found, r) => wrongType .array found r

/-- Null, or what another reader reads. -/
def readOptional {α : Type} (read : Reader α) : Reader (Option α) := fun s =>
  match skipBlank s with
  | 'n' :: r => (word ['u', 'l', 'l'] r).map fun r => (none, r)
  | r => (read r).map fun (v, r) => (some v, r)

end Json

namespace Config

inductive Field where
  | name
  | astVisitor
  | outputDirectory
  | nodes
  | declarationExt
  | definitionExt
  deriving DecidableEq, Repr

namespace Field

/-- The fields in their order. -/
def all : List Field :=
  [.name, .astVisitor, .outputDirectory, .nodes, .declarationExt, .definitionExt]

def key : Field → String
  | .name => "name"
  | .astVisitor => "ast_visitor"
  | .outputDirectory => "output_directory"
  | .nodes => "nodes"
  | .declarationExt => "declaration_ext"
  | .definitionExt => "definition_ext"

def ofKey? (k : String) : Option Field := all.find? (·.key == k)

/-- Reads the value of a field into a configuration. -/
def read (c : Config) : Field → Json.Reader Config
  | .name => fun s =>
    (Json.readOptional (Json.readString .string) s).map fun (v, r) => ({ c with name := v }, r)
  | .astVisitor => fun s => (Json.readBool s).map fun (v, r) => ({ c with astVisitor := v }, r)
  | .outputDirectory => fun s =>
    (Json.readOptional (Json.readString .path) s).map
      fun (v, r) => ({ c with outputDirectory := v }, r)
  | .nodes => fun s =>
    (Json.readOptional Json.readStrings s).map fun (v, r) => ({ c with nodes := v }, r)
  | .declarationExt => fun s =>
    (Json.readString .string s).map fun (v, r) => ({ c with declarationExt := v }, r)
  | .definitionExt => fun s =>
    (Json.readString .string s).map fun (v, r) => ({ c with definitionExt := v }, r)

end Field

/-- A configuration in the making, with the fields it has been given. -/
structure Draft where
  config : Config
  given : List Field

/-- One member of the object form. -/
def member (d : Draft) (key : String) : Json.Reader Draft := fun s =>
  match Field.ofKey? key with
  | none => Json.stop (.unknownField key (Field.all.map Field.key)) (Json.afterClosing s)
  | some field =>
    if d.given.contains field then Json.stop (.repeatedField key) (Json.afterClosing s)
    else do
      let s ← Json.colon s
      let (c, s) ← field.read d.config s
      .ok (⟨c, field :: d.given⟩, s)

/-- The end of the array form, once all fields have been given. -/
def arrayEnd (c : Config) : Json.Reader Config := fun s =>
  match Json.skipBlank s with
  | [] => Json.peek .endInArray []
  | ']' :: r => .ok (c, r)
  | ',' :: r =>
    match Json.skipBlank r with
    | ']' :: r => Json.peek .trailingComma (']' :: r)
    | r => Json.peek .trailingCharacters r
  | r => Json.peek .trailingCharacters r

/-- The fields of the array form after the first. -/
def laterFields (c : Config) : List Field → Json.Reader Config
  | [] => arrayEnd c
  | field :: fields => fun s =>
    match Json.skipBlank s with
    | [] => Json.peek .endInArray []
    | ']' :: r => .ok (c, r)
    | ',' :: r =>
      match Json.skipBlank r with
      | [] => Json.peek .endInValue []
      | ']' :: r => Json.peek .trailingComma (']' :: r)
      | r => do
        let (c, r) ← field.read c r
        laterFields c fields r
    | r => Json.peek .noArrayEnd r

/-- The array form, whose opening bracket has been read. -/
def arrayForm : Json.Reader Config := fun s =>
  match Json.skipBlank s with
  | [] => Json.peek .endInArray []
  | ']' :: r => .ok (standard, r)
  | r => do
    let (c, r) ← Field.name.read standard r
    laterFields c (Field.all.drop 1) r

def reader : Json.Reader Config := fun s => do
  match ← Json.lead s with
  | (.object, r) =>
    (Json.members member ⟨standard, []⟩ (r.drop 1)).map fun (d, r) => (d.config, r)
  | (.array, r) => arrayForm (r.drop 1)
  | (found, r) => Json.wrongType (.record "GeneratorConfig") found r

def decode (text : String) : Except Json.Located Config := Json.document reader text

end Config

end Scaffold
