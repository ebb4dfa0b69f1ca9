import Scaffold.Template.Reader
import Scaffold.Text.Casing

/-!
Rendering a template against a value. Every tag must find what it names; values are inserted as
they are.
-/
namespace Scaffold.Template

/-- The helpers a tag can call. -/
inductive Casing where
  | upper
  | lower
  | title

namespace Casing

def text : Casing → String
  | .upper => "upper"
  | .lower => "lower"
  | .title => "title"

def ofName? (name : String) : Option Casing :=
  [upper, lower, title].find? (·.text == name)

def apply : Casing → String → String
  | .upper => Text.upper
  | .lower => Text.lower
  | .title => Text.title

end Casing

/-- Why a tag cannot be rendered. -/
inductive Problem where
  | unresolved (written : String)
  | notIndex (key : String)
  | noHelper (name : String)
  | noArgument (helper : Casing)
  | notString (helper : Casing)

def Problem.text : Problem → String
  | .unresolved written => "Failed to access variable in strict mode Some(" ++ Text.quoted written ++ ")"
  | .notIndex key => "Cannot access array/vector with string index, " ++ key
  | .noHelper name => "Helper not found " ++ name
  | .noArgument helper =>
    "Helper/Decorator " ++ helper.text ++ "_helper param with name s required but not found"
  | .notString helper =>
    "Helper/Decorator " ++ helper.text ++ "_helper param with name s type mismatch for str"

/-- What a key leads to, if anything. Only the text of a size can be the key of an item. -/
def follow (key : String) : Json → Except Problem (Option Json)
  | .object members => .ok (members.lookup key)
  | .array items =>
    match Decimal.size? key with
    | some n => .ok items[n]?
    | none => .error (.notIndex key)
  | _ => .ok none

/-- Follows keys into a value. -/
def lookup (v : Json) : List String → Except Problem (Option Json)
  | [] => .ok (some v)
  | k :: ks => do
    match ← follow k v with
    | some w => lookup w ks
    | none => .ok none

/-- The value that a route leads to, if any. No block surrounds a tag, so there are no variables to
find. -/
def Route.eval (context : Json) (r : Route) : Except Problem (Option Json) :=
  if r.marked then .ok none else lookup context r.keys

/-- The result of a helper, which wants a string as its first argument and ignores the others. -/
def callHelper (name : String) (arguments : List (Option Json)) : Except Problem Json :=
  match Casing.ofName? name with
  | none => .error (.noHelper name)
  | some helper =>
    match arguments with
    | some (.string s) :: _ => .ok (.string (helper.apply s))
    | some _ :: _ => .error (.notString helper)
    | none :: _ | [] => .error (.noArgument helper)

mutual

/-- The value of an argument, or nothing if its route leads nowhere. -/
def Argument.eval (context : Json) : Argument → Except Problem (Option Json)
  | .route r => r.eval context
  | .literal v => .ok (some v)
  | .call helper arguments => do
    let vs ← evalAll context arguments
    (callHelper helper vs).map some

def evalAll (context : Json) : List Argument → Except Problem (List (Option Json))
  | [] => .ok []
  | a :: as => do
    let v ← a.eval context
    let vs ← evalAll context as
    .ok (v :: vs)

end

mutual

/-- How a value is shown. -/
def shown : Json → List Char
  | .null => []
  | .bool true => "true".toList
  | .bool false => "false".toList
  | .number n => n.text.toList
  | .string s => s.toList
  | .array [] => ['[', ']']
  | .array (v :: vs) => '[' :: shown v ++ shownRest vs
  | .object _ => "[object]".toList

def shownRest : List Json → List Char
  | [] => [']']
  | v :: vs => ',' :: ' ' :: shown v ++ shownRest vs

end

/-- The value of a tag. A text that names a helper, as it was written or as it was made by a call in
parentheses, calls that helper without arguments. -/
def Tag.eval (context : Json) : Tag → Except Problem Json
  | .show r => do
    if (Casing.ofName? r.written).isSome then callHelper r.written []
    else match ← r.eval context with
      | some v => .ok v
      | none => .error (.unresolved r.written)
  | .call helper arguments => do
    let vs ← evalAll context arguments
    callHelper helper vs
  | .nested helper arguments => do
    let vs ← evalAll context arguments
    let v ← callHelper helper vs
    let text := String.ofList (shown v)
    if (Casing.ofName? text).isSome then callHelper text [] else .ok v

def located (line column : Nat) (problem : Problem) : Failure :=
  .unrenderable ("Error rendering \"Unnamed template\" line " ++ toString line ++ ", col "
    ++ toString column ++ ": " ++ problem.text)

def Piece.render (context : Json) : Piece → Except Failure (List Char)
  | .text cs => .ok cs
  | .tag line column t => ((t.eval context).map shown).mapError (located line column)

def renderPieces (context : Json) : List Piece → Except Failure (List Char)
  | [] => .ok []
  | p :: ps => do
    let cs ← p.render context
    let rest ← renderPieces context ps
    .ok (cs ++ rest)

end Scaffold.Template

namespace Scaffold

/-- The text of a template in which every tag is replaced by its value. -/
def Template.render (t : Template) (context : Json) : Except Failure String :=
  (Template.renderPieces context t.pieces).map String.ofList

/-- Reads and renders a template. -/
def renderTemplate (source : String) (context : Json) : Except Failure String := do
  let t ← Template.read source
  t.render context

end Scaffold
