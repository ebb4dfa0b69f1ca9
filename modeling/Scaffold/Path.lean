import Scaffold.Text.Fields

/-!
Paths as text, and the components they consist of.

Repeated slashes, a slash at the end and dots after the first component carry no meaning, so two
paths are equal if their components are.
-/
namespace Scaffold.Path

inductive Component where
  | root
  | current
  | parent
  | normal (name : String)
  deriving DecidableEq, Repr

namespace Component

/-- Place of a component's kind in the order of components. -/
def rank : Component → Nat
  | .root => 0
  | .current => 1
  | .parent => 2
  | .normal _ => 3

def name : Component → String
  | .root => "/"
  | .current => "."
  | .parent => ".."
  | .normal name => name

/-- Components are ordered by kind and then by name. -/
instance : Ord Component := ⟨compareLex (compareOn rank) (compareOn name)⟩

instance : Std.TransOrd Component :=
  inferInstanceAs (Std.TransCmp (compareLex (compareOn rank) (compareOn name)))

end Component

/-- The components of the fields after the first: empty ones and dots are passed over. -/
def laterComponents (fields : List (List Char)) : List Component :=
  fields.filterMap fun f =>
    if f = [] || f = ['.'] then none
    else if f = ['.', '.'] then some .parent
    else some (.normal (String.ofList f))

def isAbsolute (path : String) : Bool := path.toList.head? = some '/'

def components (path : String) : List Component :=
  let fields := Text.fields '/' path.toList
  if isAbsolute path then .root :: laterComponents fields
  else if fields.head? = some ['.'] then .current :: laterComponents fields
  else laterComponents fields

/-- Paths are ordered component by component. -/
def order (p q : String) : Ordering := compare (components p) (components q)

def same (p q : String) : Bool := components p = components q

/-- A path below a directory; an absolute path stands for itself. -/
def join (dir path : String) : String :=
  if isAbsolute path || dir.isEmpty then path
  else if dir.toList.getLast? = some '/' then dir ++ path
  else dir ++ "/" ++ path

/-- The name at the end of a path, unless it ends in a dot or two. -/
def fileName? (path : String) : Option String :=
  match (components path).getLast? with
  | some (.normal name) => some name
  | _ => none

/-- The text of some components. -/
def ofComponents : List Component → String
  | [] => ""
  | .root :: rest => "/" ++ "/".intercalate (rest.map Component.name)
  | comps => "/".intercalate (comps.map Component.name)

/-- The paths that end before one of the last components, the longest first, down to but without
the empty path. -/
def ancestors (path : String) : List String :=
  let comps := components path
  (List.range (comps.length - 1)).map fun n => ofComponents (comps.take (comps.length - 1 - n))

end Scaffold.Path
