import Scaffold.Template.Tag
import Scaffold.Failure

/-!
Reading templates.

Text runs up to two opening braces. One backslash before them makes them text; of several
backslashes one is dropped and the tag stands. A comment that is alone on its line takes the line
with it.
-/
namespace Scaffold.Template

/-- Two braces open a tag. -/
def opensTag : List Char → Bool
  | '\x7b' :: '\x7b' :: _ => true
  | _ => false

/-- The number of backslashes in front. -/
def backslashes (s : List Char) : Nat := (s.takeWhile (· = '\\')).length

/-- Text up to the next tag, without the backslashes that escape, and its size with them. -/
def textChars : Nat → List Char → List Char × Nat
  | 0, _ => ([], 0)
  | _ + 1, [] => ([], 0)
  | fuel + 1, c :: rest =>
    if opensTag (c :: rest) then ([], 0)
    else
      let n := backslashes (c :: rest)
      let r := (c :: rest).drop n
      if n = 0 then
        let (cs, size) := textChars fuel rest
        (c :: cs, size + 1)
      else if !opensTag r then
        let (cs, size) := textChars fuel r
        (List.replicate n '\\' ++ cs, size + n)
      else if n = 1 then
        let braces := if opensTag (r.drop 2) then 4 else 2
        let (cs, size) := textChars fuel (r.drop braces)
        (r.take braces ++ cs, size + braces + 1)
      else (List.replicate (n - 1) '\\', n)

def isIndent (c : Char) : Bool := c = ' ' || c = '\t'
def isLineEnd (c : Char) : Bool := c = '\n' || c = '\r'

/-- Whether nothing but indentation stands before the next line end, which is there or not
needed because the text ends. -/
def endsLine (s : List Char) : Bool :=
  s.isEmpty || ((s.dropWhile isIndent).head?.map isLineEnd).getD false

/-- Whether nothing but indentation has come since the line began; the text so far is given last
character first. -/
def beginsLine (before : List Char) : Bool :=
  ((before.dropWhile isIndent).head?.map isLineEnd).getD true

/-- Drops the rest of a line of which only indentation and its end are left. -/
def dropLineEnd (s : List Char) : List Char :=
  match s.dropWhile isIndent with
  | '\r' :: '\n' :: rest => rest
  | '\n' :: rest => rest
  | rest => rest

/-- Removes the indentation at the end of the last piece of text. -/
def dropIndent : List (Checked Piece) → List (Checked Piece)
  | .ok (.text cs) :: pieces => .ok (.text (cs.reverse.dropWhile isIndent).reverse) :: pieces
  | pieces => pieces

/-- Reads on in a template; `done` holds the pieces so far, the last one first, and `bare` tells
that a comment has taken its line with it. The limit is fuel for what stands between braces. -/
def piecesFrom (limit : Nat) : Nat → (done : List (Checked Piece)) → (bare : Bool) → Spot →
    Option (List (Checked Piece))
  | 0, _, _, _ => none
  | fuel + 1, done, bare, s =>
    if s.rest.isEmpty then some done.reverse
    else if !opensTag s.rest then
      let (cs, size) := textChars limit s.rest
      let piece := .text (if bare then dropLineEnd cs else cs)
      piecesFrom limit fuel (.ok piece :: done) false (s.skip size)
    else match (Step.tag limit).run s with
      | some (t, r) => piecesFrom limit fuel (t.map (.tag s.line s.column) :: done) false r
      | none => do
        let (_, r) ← Step.comment.run s
        let alone := endsLine r.rest && beginsLine s.before
        piecesFrom limit fuel (if alone then dropIndent done else done) alone r

end Scaffold.Template

namespace Scaffold

/-- Reads a template. One whose braces do not match is malformed, whatever its literals are. -/
def Template.read (source : String) : Except Failure Template :=
  let limit := 4 * source.length + 4
  match Template.piecesFrom limit limit [] false (.start source) with
  | none => .error .malformedTemplate
  | some pieces =>
    match pieces.mapM id with
    | .ok pieces => .ok ⟨pieces⟩
    | .error written => .error (.malformedLiteral written)

end Scaffold
