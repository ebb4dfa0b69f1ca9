import Scaffold.Json.Basic

/-!
Templates: text with tags in double braces.

A tag shows a parameter, or the result of a named helper on its arguments. Parameters are reached
by routes whose keys name members and count items.
-/
namespace Scaffold.Template

/-- A way into a value, with the text it was written as. A route marked with `@` asks for a
variable of a surrounding block. -/
structure Route where
  written : String
  keys : List String
  marked : Bool
  deriving Repr

inductive Argument where
  | route (r : Route)
  | literal (v : Json)
  | call (helper : String) (arguments : List Argument)

/-- What a tag asks for: a parameter, the result of a helper, or the result of a helper whose call
stands in parentheses. -/
inductive Tag where
  | show (r : Route)
  | call (helper : String) (arguments : List Argument)
  | nested (helper : String) (arguments : List Argument)

/-- Text to copy, or a tag with the line and column of its opening braces. -/
inductive Piece where
  | text (cs : List Char)
  | tag (line column : Nat) (tag : Tag)

end Scaffold.Template

namespace Scaffold

/-- A template that has been read. -/
structure Template where
  pieces : List Template.Piece

end Scaffold
