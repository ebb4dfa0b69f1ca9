import Scaffold.Template.Basic
import Scaffold.Template.Spot

/-!
Reading names and routes.

A route is a row of keys with a dot or a slash between them. The word `this` adds nothing to it,
nor do steps up, since no block surrounds a tag. The fuel bounds the number of keys and steps.
-/
namespace Scaffold.Template

namespace Step

/-- Characters of names: letters and digits, the marks `_`, `-`, `:`, `$` and all past ASCII. -/
def isNameChar (c : Char) : Bool :=
  c.isAlphanum || c = '_' || c = '-' || c = ':' || c = '$' || 0x80 ≤ c.toNat

def name : Step String := return String.ofList (← chars1 isNameChar)

/-- Fails where a name could go on. -/
def nameEnd : Step Unit := absent name

/-- Any text in square brackets. -/
def bracketed : Step String := do
  word "["
  let cs ← chars (· ≠ ']')
  word "]"
  return String.ofList cs

def key : Step String := name <|> bracketed

def separator : Step Unit := word "." <|> word "/"

/-- The keys after the first, each behind a separator. -/
def moreKeys : Nat → Step (List String)
  | 0 => pure []
  | fuel + 1 => (do
      separator
      let k ← key
      let ks ← moreKeys fuel
      return k :: ks) <|> pure []

/-- Steps up. -/
def ascents : Nat → Step Unit
  | 0 => pure ()
  | fuel + 1 => (do
      word ".."
      separator
      ascents fuel) <|> pure ()

/-- The keys of a route, and whether it asks for a variable. A mark at the root or before nothing
but `this` has no effect. -/
def keys (fuel : Nat) : Step (List String × Bool) := do
  let _ ← found ((word "this" *> separator) <|> word "./")
  let rooted ← found (word "@root" *> separator)
  let marked ← found (word "@")
  ascents fuel
  let k ← key
  let ks ← moreKeys fuel
  let named := (k :: ks).filter (· ≠ "this")
  return (named, marked && !rooted && !named.isEmpty)

def route (fuel : Nat) : Step Route := do
  let ((named, marked), cs) ← written (keys fuel)
  return ⟨String.ofList cs, named, marked⟩

end Step

end Scaffold.Template
