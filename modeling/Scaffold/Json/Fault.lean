import Scaffold.Json.Basic
import Scaffold.Text.Quoted

/-!
What can be wrong with a JSON text, and where.
-/
namespace Scaffold.Json

/-- What a value of the wrong type was found to be. -/
inductive Found where
  | null
  | bool (b : Bool)
  | number (n : Number)
  | string (s : String)
  | array
  | object

/-- What a value is. -/
def Found.ofJson : Json → Found
  | .null => .null
  | .bool b => .bool b
  | .number n => .number n
  | .string s => .string s
  | .array _ => .array
  | .object _ => .object

/-- What a reader wanted in place of a value of the wrong type. -/
inductive Wanted where
  | string
  | bool
  | path
  | array
  | map
  | record (name : String)

inductive Problem where
  | endInValue
  | endInString
  | endInArray
  | endInObject
  | noValue
  | misspelled
  | badNumber
  | numberTooLarge
  | controlCharacter
  | badEscape
  | strayTrailSurrogate
  | strayLeadSurrogate
  | noArrayEnd
  | noObjectEnd
  | noColon
  | trailingComma
  | keyNotString
  | trailingCharacters
  | tooDeep
  | wrongType (found : Found) (wanted : Wanted)
  | noShape (type : String)
  | unknownField (key : String) (known : List String)
  | repeatedField (key : String)

def Found.text : Found → String
  | .null => "null"
  | .bool true => "boolean `true`"
  | .bool false => "boolean `false`"
  | .number (.integer i) => "integer `" ++ toString i ++ "`"
  | .number (.float x) => "floating point `" ++ x.text Decimal.jsonLayout ++ "`"
  | .string s => "string " ++ Text.quoted s
  | .array => "sequence"
  | .object => "map"

def Wanted.text : Wanted → String
  | .string => "a string"
  | .bool => "a boolean"
  | .path => "path string"
  | .array => "a sequence"
  | .map => "a map"
  | .record name => "struct " ++ name

def Problem.text : Problem → String
  | .endInValue => "EOF while parsing a value"
  | .endInString => "EOF while parsing a string"
  | .endInArray => "EOF while parsing a list"
  | .endInObject => "EOF while parsing an object"
  | .noValue => "expected value"
  | .misspelled => "expected ident"
  | .badNumber => "invalid number"
  | .numberTooLarge => "number out of range"
  | .controlCharacter => "control character (\\u0000-\\u001F) found while parsing a string"
  | .badEscape => "invalid escape"
  | .strayTrailSurrogate => "lone leading surrogate in hex escape"
  | .strayLeadSurrogate => "unexpected end of hex escape"
  | .noArrayEnd => "expected `,` or `]`"
  | .noObjectEnd => "expected `,` or `\x7d`"
  | .noColon => "expected `:`"
  | .trailingComma => "trailing comma"
  | .keyNotString => "key must be a string"
  | .trailingCharacters => "trailing characters"
  | .tooDeep => "recursion limit exceeded"
  | .wrongType found wanted => "invalid type: " ++ found.text ++ ", expected " ++ wanted.text
  | .noShape type => "data did not match any variant of untagged enum " ++ type
  | .unknownField key known =>
    "unknown field `" ++ key ++ "`, expected one of "
      ++ ", ".intercalate (known.map fun k => "`" ++ k ++ "`")
  | .repeatedField key => "duplicate field `" ++ key ++ "`"

/-- A problem met when `left` bytes of the text had not been consumed. -/
structure Fault where
  problem : Problem
  left : Nat

/-- The number of bytes of a text. -/
def byteCount (cs : List Char) : Nat := cs.foldl (fun n c => n + c.utf8Size) 0

/-- Line and column after a number of bytes, where lines count from one and a column is the
number of bytes since the line began. -/
def lineColumn : List Char → Nat → (line column : Nat) → Nat × Nat
  | [], _, line, column => (line, column)
  | c :: rest, offset, line, column =>
    if offset = 0 then (line, column)
    else if c = '\n' then lineColumn rest (offset - 1) (line + 1) 0
    else lineColumn rest (offset - c.utf8Size) line (column + min c.utf8Size offset)

/-- A problem at a place in a text. -/
structure Located where
  problem : Problem
  line : Nat
  column : Nat

def Fault.locate (fault : Fault) (text : String) : Located :=
  let cs := text.toList
  let (line, column) := lineColumn cs (byteCount cs - fault.left) 1 0
  ⟨fault.problem, line, column⟩

def Located.message (l : Located) : String :=
  l.problem.text ++ " at line " ++ toString l.line ++ " column " ++ toString l.column

end Scaffold.Json
