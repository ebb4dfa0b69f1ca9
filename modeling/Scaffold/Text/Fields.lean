/-!
Splitting at a separator.
-/
namespace Scaffold.Text

/-- The fields between the separators; there is always one more field than separators. -/
def fields (sep : Char) : List Char → List (List Char)
  | [] => [[]]
  | c :: rest =>
    if c = sep then [] :: fields sep rest
    else match fields sep rest with
      | [] => [[c]]
      | f :: fs => (c :: f) :: fs

end Scaffold.Text
