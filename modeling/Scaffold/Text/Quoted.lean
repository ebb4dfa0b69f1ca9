import Scaffold.Text.PrintData

/-!
Text in double quotes with everything escaped that would not show as itself.
-/
namespace Scaffold.Text

/-- Whether a character is shown as itself inside quotes: it is printable, leaves a mark and does
not combine with the character before it. -/
def showsAsItself (c : Char) : Bool :=
  if 0x20 ≤ c.toNat && c.toNat ≤ 0x7E then true
  else !inRuns unprintableRuns c && !inRuns fillerRuns c && !inRuns graphemeExtendRuns c

/-- A code point in braces, in lowercase hexadecimal without leading zeros. -/
def codePoint (c : Char) : List Char :=
  ['\\', 'u', '\x7b'] ++ Nat.toDigits 16 c.toNat ++ ['\x7d']

def escapeChar (c : Char) : List Char :=
  if c = '\x00' then ['\\', '0']
  else if c = '\t' then ['\\', 't']
  else if c = '\r' then ['\\', 'r']
  else if c = '\n' then ['\\', 'n']
  else if c = '\\' || c = '"' then ['\\', c]
  else if showsAsItself c then [c]
  else codePoint c

def quoted (s : String) : String :=
  String.ofList ('"' :: s.toList.flatMap escapeChar ++ ['"'])

/-- A list of quoted strings in square brackets. -/
def quotedList (xs : List String) : String :=
  "[" ++ ", ".intercalate (xs.map quoted) ++ "]"

end Scaffold.Text
