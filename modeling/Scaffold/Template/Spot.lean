/-!
Places in a text that is being read, and readers that move from one to the next.
-/
namespace Scaffold.Template

/-- A place in a text: what has been read, last character first, and how much that is; what is
left; and the line and the column, both counted from one. -/
structure Spot where
  before : List Char
  offset : Nat
  rest : List Char
  line : Nat
  column : Nat

namespace Spot

def start (text : String) : Spot := ⟨[], 0, text.toList, 1, 1⟩

/-- Moves past the next character. -/
def next (s : Spot) : Spot :=
  match s.rest with
  | [] => s
  | c :: rest =>
    if c = '\n' then ⟨c :: s.before, s.offset + 1, rest, s.line + 1, 1⟩
    else ⟨c :: s.before, s.offset + 1, rest, s.line, s.column + 1⟩

/-- Moves past some characters. -/
def skip : Nat → Spot → Spot
  | 0, s => s
  | n + 1, s => skip n s.next

/-- The text between an earlier place and this one. -/
def since (s earlier : Spot) : List Char := (s.before.take (s.offset - earlier.offset)).reverse

end Spot

/-- A reader makes something of the text at a place and moves on, or finds that the text is not
what it reads. -/
abbrev Step := StateT Spot Option

namespace Step

/-- Takes all characters of a class that stand in a row. -/
def chars (p : Char → Bool) : Step (List Char) := do
  let cs := (← get).rest.takeWhile p
  modify (·.skip cs.length)
  return cs

/-- Takes one or more characters of a class. -/
def chars1 (p : Char → Bool) : Step (List Char) := do
  let cs ← chars p
  guard !cs.isEmpty
  return cs

def word (w : String) : Step Unit := do
  guard (w.toList.isPrefixOf (← get).rest)
  modify (·.skip w.length)

/-- Takes as much as a function finds. -/
def sized (size : List Char → Option Nat) : Step Unit := do
  let n ← size (← get).rest
  modify (·.skip n)

/-- Whether a reader finds what it reads, which is then passed. -/
def found {α : Type} (step : Step α) : Step Bool :=
  (step *> pure true) <|> pure false

/-- Fails where a reader would find what it reads. -/
def absent {α : Type} (step : Step α) : Step Unit := do
  guard (step.run (← get)).isNone

/-- What a reader finds, and how it was written. -/
def written {α : Type} (step : Step α) : Step (α × List Char) := do
  let start ← get
  let x ← step
  return (x, (← get).since start)

def isBlank (c : Char) : Bool := c = ' ' || c = '\t' || c = '\n' || c = '\r'

def blanks : Step Unit := discard (chars isBlank)

end Step

end Scaffold.Template
