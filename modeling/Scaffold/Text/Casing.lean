import Scaffold.Text.CaseData

/-!
Upper case, lower case and title case over all of Unicode.

`upper` and `lower` use the full mappings, where one character may become several; `lower` writes
a sigma that ends a word as the final sigma. `title` works on runs of cased letters: the first of a
run goes to upper case, the others to lower case, and every other character is copied.
-/
namespace Scaffold.Text

def isAscii (c : Char) : Bool := c.toNat < 128

/-- The property Lowercase. -/
def isLowercase (c : Char) : Bool :=
  if isAscii c then c.isLower else inRuns lowercaseRuns c

/-- The property Uppercase. -/
def isUppercase (c : Char) : Bool :=
  if isAscii c then c.isUpper else inRuns uppercaseRuns c

/-- Letters that form the runs of `title`. -/
def isRunLetter (c : Char) : Bool := isLowercase c || isUppercase c

/-- The property Cased: a letter of any case, title case included. -/
def isCased (c : Char) : Bool := isRunLetter c || inRuns titlecaseRuns c

/-- The property Case_Ignorable. -/
def isCaseIgnorable (c : Char) : Bool := inRuns caseIgnorableRuns c

/-- The uppercase mapping of one character. -/
def upperChar (c : Char) : List Char :=
  if isAscii c then [c.toUpper]
  else match upperExpansions.lookup c.toNat with
    | some ns => ns.map Char.ofNat
    | none => [(shift? upperShifts c).getD c]

/-- The lowercase mapping of one character, whatever stands around it. -/
def lowerChar (c : Char) : List Char :=
  if isAscii c then [c.toLower]
  else if c = '\u0130' then ['i', '\u0307']
  else [(shift? lowerShifts c).getD c]

/-- Whether a cased letter comes first once the ignorable characters are passed over. -/
def meetsCased (cs : List Char) : Bool :=
  match cs.dropWhile isCaseIgnorable with
  | [] => false
  | c :: _ => isCased c

/-- Lower case of the characters after `before`, which is given last character first. -/
def lowerAfter (before : List Char) : List Char → List Char
  | [] => []
  | c :: rest =>
    let image :=
      if c = 'Σ' then [if meetsCased before && !meetsCased rest then 'ς' else 'σ']
      else lowerChar c
    image ++ lowerAfter (c :: before) rest

/-- Title case of the characters that follow a run letter if `inRun`, or anything else. -/
def titleFrom (inRun : Bool) : List Char → List Char
  | [] => []
  | c :: rest =>
    if isRunLetter c then
      (if inRun then lowerChar c else upperChar c) ++ titleFrom true rest
    else c :: titleFrom false rest

def upper (s : String) : String := String.ofList (s.toList.flatMap upperChar)

def lower (s : String) : String := String.ofList (lowerAfter [] s.toList)

def title (s : String) : String := String.ofList (titleFrom false s.toList)

end Scaffold.Text
