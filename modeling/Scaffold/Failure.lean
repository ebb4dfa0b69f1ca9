import Scaffold.Json.Fault

/-!
Everything that can go wrong, with the texts that report it.
-/
namespace Scaffold

/-- Why an operation on a file or a store was refused. -/
inductive IoFault where
  | notFound
  | alreadyExists
  | notDirectory
  | isDirectory
  | noSpace
  | nameTooLong
  | tooManyLinks
  | notText
  | nulInPath
  | denied
  | closed
  | other (text : String)
  deriving DecidableEq, Repr

/-- The text of a condition that the system knows by a number. -/
def systemText (text : String) (code : Nat) : String :=
  text ++ " (os error " ++ toString code ++ ")"

def IoFault.message : IoFault → String
  | .notFound => systemText "No such file or directory" 2
  | .alreadyExists => systemText "File exists" 17
  | .notDirectory => systemText "Not a directory" 20
  | .isDirectory => systemText "Is a directory" 21
  | .noSpace => systemText "No space left on device" 28
  | .nameTooLong => systemText "File name too long" 36
  | .tooManyLinks => systemText "Too many levels of symbolic links" 40
  | .notText => "stream did not contain valid UTF-8"
  | .nulInPath => "file name contained an unexpected NUL byte"
  | .denied => "permission denied"
  | .closed => "sink already closed"
  | .other text => text

/-- The shapes that a parameter can have. -/
inductive ParamKind where
  | boolean
  | string
  | strings
  | records
  deriving DecidableEq, Repr

def ParamKind.text : ParamKind → String
  | .boolean => "boolean"
  | .string => "string"
  | .strings => "list of strings"
  | .records => "list of records"

/-- What is wrong with a parameter. -/
inductive Defect where
  | missing
  | wrongKind (expected found : ParamKind)
  | emptyName
  | nameCharacters (name : String)
  | nameNotAscii (name : String)
  | notIdentifier (node : String)
  | repeatedNode (node : String)
  | notExtension (extension : String)
  | noName
  | notPosition
  deriving DecidableEq, Repr

def Defect.reason : Defect → String
  | .missing => "required parameter is missing"
  | .wrongKind expected found => "expected " ++ expected.text ++ ", found " ++ found.text
  | .emptyName => "component name must not be empty"
  | .nameCharacters name => "'" ++ name ++ "' must not contain whitespace or path separators"
  | .nameNotAscii name => "'" ++ name ++ "' must be ASCII"
  | .notIdentifier node => "'" ++ node ++ "' is not a valid identifier"
  | .repeatedNode node => "'" ++ node ++ "' is listed more than once"
  | .notExtension extension => "'" ++ extension ++ "' is not a bare file extension"
  | .noName => "no component name given (use -n or set \"name\" in the config)"
  | .notPosition => "expected a string of type int:[y/n]:[y/n]:int"

inductive Failure where
  | invalidParameter (key : String) (defect : Defect)
  | sinkUnavailable (path : String) (cause : IoFault)
  | writeFailed (path : String) (cause : IoFault)
  | malformedTemplate
  | malformedLiteral (written : String)
  | unrenderable (text : String)
  | configUnreadable (path : String) (cause : IoFault)
  | configMalformed (path : String) (cause : Json.Located)
  | io (cause : IoFault)

namespace Failure

def message : Failure → String
  | .invalidParameter key defect => "invalid parameter '" ++ key ++ "': " ++ defect.reason
  | .sinkUnavailable path _ => "cannot create " ++ path
  | .writeFailed path _ => "failed writing " ++ path
  | .malformedTemplate => "template rendering failed: malformed template"
  | .malformedLiteral written =>
    "template rendering failed: Failed to parse template invalid parameter " ++ Text.quoted written
  | .unrenderable text => "template rendering failed: " ++ text
  | .configUnreadable path _ => "config file not found at " ++ path
  | .configMalformed path _ => "failed to parse config at " ++ path
  | .io cause => cause.message

/-- The text of the failure behind this one, if there is one. -/
def cause? : Failure → Option String
  | .sinkUnavailable _ cause => some cause.message
  | .writeFailed _ cause => some cause.message
  | .configUnreadable _ cause => some cause.message
  | .configMalformed _ cause => some cause.message
  | _ => none

/-- The message with its cause after a colon. -/
def chain (f : Failure) : String :=
  match f.cause? with
  | some cause => f.message ++ ": " ++ cause
  | none => f.message

end Failure

end Scaffold
