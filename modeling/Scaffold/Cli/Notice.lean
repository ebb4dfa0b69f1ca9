import Scaffold.Config.Basic
import Scaffold.Generation

/-!
Notices: what is told about a run beside its results, each at a level.

A notice of a higher level is shown sooner; the most talkative level needs two steps of verbosity.
-/
namespace Scaffold.Cli

inductive Level where
  | debug
  | info
  | warning
  | error
  deriving DecidableEq, Repr

namespace Level

def text : Level → String
  | .debug => "DEBUG"
  | .info => "INFO"
  | .warning => "WARN"
  | .error => "ERROR"

/-- The least verbosity that shows a level. -/
def threshold : Level → Nat
  | .error | .warning => 0
  | .info => 1
  | .debug => 2

end Level

inductive Notice where
  | configAbsent (path : String)
  | configSettled (config : Config)
  | generating (request : Request)
  | derived (assignment : Assignment)
  | declined (path : String)
  | unavailable (path : String) (failure : Failure)
  | broken (path : String) (failure : Failure)
  | wrote (path : String) (bytes : Nat)

/-- A setting that may be missing. -/
def optionText {α : Type} (write : α → String) : Option α → String
  | none => "None"
  | some v => "Some(" ++ write v ++ ")"

/-- All settings of a configuration with their field names. -/
def configText (c : Config) : String :=
  "GeneratorConfig \x7b " ++ ", ".intercalate [
    "name: " ++ optionText Text.quoted c.name,
    "ast_visitor: " ++ toString c.astVisitor,
    "output_directory: " ++ optionText Text.quoted c.outputDirectory,
    "nodes: " ++ optionText Text.quotedList c.nodes,
    "declaration_ext: " ++ Text.quoted c.declarationExt,
    "definition_ext: " ++ Text.quoted c.definitionExt] ++ " \x7d"

namespace Notice

def level : Notice → Level
  | .configAbsent _ | .configSettled _ | .derived _ => .debug
  | .generating _ | .wrote _ _ => .info
  | .declined _ => .warning
  | .unavailable _ _ | .broken _ _ => .error

def message : Notice → String
  | .configAbsent path => "no config at " ++ path ++ ", using defaults"
  | .configSettled config => "effective configuration: " ++ configText config
  | .generating r =>
    "generating backend '" ++ r.name ++ "' (ast_visitor=" ++ toString r.astVisitor ++ ", "
      ++ toString r.nodes.length ++ " nodes)"
  | .derived a =>
    "derived " ++ a.kind.text ++ " parameters for " ++ a.body.id ++ ": "
      ++ Text.quotedList a.params.keys
  | .declined path => path ++ " already exists, skipping"
  | .unavailable path failure => "can't create " ++ path ++ ": " ++ failure.chain
  | .broken path failure => "failed writing " ++ path ++ ": " ++ failure.chain
  | .wrote path bytes => "wrote " ++ path ++ " (" ++ toString bytes ++ " bytes)"

/-- Characters that could steer a terminal are written as escapes. -/
def harmless (c : Char) : List Char :=
  if c = '\x07' || c = '\x08' || c = '\x0c' || c = '\x1b' || c = '\x7f' then
    let digits := Nat.toDigits 16 c.toNat
    ['\\', 'x'] ++ List.replicate (2 - digits.length) '0' ++ digits
  else if 0x80 ≤ c.toNat && c.toNat ≤ 0x9F then Text.codePoint c
  else [c]

def line (n : Notice) : String :=
  n.level.text ++ " " ++ String.ofList (n.message.toList.flatMap harmless) ++ "\n"

def ofAttempt (path : String) : Attempt → Notice
  | .declined => .declined path
  | .unavailable failure => .unavailable path failure
  | .broken failure => .broken path failure
  | .written bytes => .wrote path bytes

/-- What is told of a job and of the attempts at its artifacts. -/
def ofRun (job : Job) (attempts : List (Assignment × Attempt)) : List Notice :=
  .generating job.request :: job.assignments.map .derived
    ++ attempts.map fun (a, attempt) => ofAttempt a.path attempt

end Notice

end Scaffold.Cli
