import Scaffold.Json.Fault
import Scaffold.Decimal.Size

/-!
Reading JSON texts.

A reader takes what is left of the text and gives a value with what is left after it. A fault says
how many bytes were left: `stop` counts everything in sight as left, `peek` counts the next byte as
consumed. Nesting is bounded by a number of brackets that may still open.
-/
namespace Scaffold.Json

abbrev Reader (α : Type) := List Char → Except Fault (α × List Char)

def stop {α : Type} (p : Problem) (rest : List Char) : Except Fault α :=
  .error ⟨p, byteCount rest⟩

def peek {α : Type} (p : Problem) (rest : List Char) : Except Fault α :=
  .error ⟨p, byteCount rest - 1⟩

def isBlank (c : Char) : Bool := c = ' ' || c = '\t' || c = '\n' || c = '\r'

def skipBlank (s : List Char) : List Char := s.dropWhile isBlank

/-- The rest of a word whose first letter has been read. -/
def word : List Char → List Char → Except Fault (List Char)
  | [], rest => .ok rest
  | _ :: _, [] => stop .endInValue []
  | w :: ws, c :: rest => if c = w then word ws rest else peek .misspelled (c :: rest)

/-! ### Strings -/

def hexDigit? (c : Char) : Option Nat :=
  if '0' ≤ c ∧ c ≤ '9' then some (c.toNat - '0'.toNat)
  else if 'a' ≤ c ∧ c ≤ 'f' then some (c.toNat - 'a'.toNat + 10)
  else if 'A' ≤ c ∧ c ≤ 'F' then some (c.toNat - 'A'.toNat + 10)
  else none

/-- The number written by exactly four hexadecimal digits. -/
def hexValue? (digits : List Char) : Option Nat :=
  if digits.length = 4 then
    digits.foldlM (fun n c => (hexDigit? c).map (16 * n + ·)) 0
  else none

/-- The four hexadecimal digits of an escaped code unit; four bytes are consumed even if they are
none. -/
def codeUnit (s : List Char) : Except Fault Nat :=
  if byteCount (s.take 4) < 4 then .error ⟨.endInString, 0⟩
  else match hexValue? (s.take 4) with
    | some n => .ok n
    | none => .error ⟨.badEscape, byteCount s - 4⟩

def isLeadSurrogate (n : Nat) : Bool := 0xD800 ≤ n && n ≤ 0xDBFF
def isTrailSurrogate (n : Nat) : Bool := 0xDC00 ≤ n && n ≤ 0xDFFF

/-- The second half of a surrogate pair, after the first half has been read. -/
def trailUnit : List Char → Except Fault Nat
  | [] => stop .endInString []
  | '\\' :: [] => stop .endInString []
  | '\\' :: 'u' :: rest => do
    let n ← codeUnit rest
    if isTrailSurrogate n then .ok n else stop .strayTrailSurrogate (rest.drop 4)
  | '\\' :: rest => peek .strayLeadSurrogate rest
  | rest => peek .strayLeadSurrogate rest

/-- The character of a `\u` escape, with the number of characters after the `u` that it takes. -/
def unicodeEscape (s : List Char) : Except Fault (Char × Nat) := do
  let n ← codeUnit s
  if isTrailSurrogate n then stop .strayTrailSurrogate (s.drop 4)
  else if isLeadSurrogate n then
    let m ← trailUnit (s.drop 4)
    .ok (Char.ofNat (0x10000 + (n - 0xD800) * 0x400 + (m - 0xDC00)), 10)
  else .ok (Char.ofNat n, 4)

/-- The character of an escape, with the number of characters after the backslash that it
takes. -/
def escape : List Char → Except Fault (Char × Nat)
  | [] => stop .endInString []
  | 'u' :: rest => (unicodeEscape rest).map fun (c, n) => (c, n + 1)
  | '"' :: _ => .ok ('"', 1)
  | '\\' :: _ => .ok ('\\', 1)
  | '/' :: _ => .ok ('/', 1)
  | 'b' :: _ => .ok ('\x08', 1)
  | 'f' :: _ => .ok ('\x0c', 1)
  | 'n' :: _ => .ok ('\n', 1)
  | 'r' :: _ => .ok ('\r', 1)
  | 't' :: _ => .ok ('\t', 1)
  | rest => peek .badEscape rest

/-- The characters of a string up to its closing quote. -/
def stringChars : List Char → Except Fault (List Char × List Char)
  | [] => stop .endInString []
  | c :: rest =>
    if c = '"' then .ok ([], rest)
    else if c = '\\' then
      match escape rest with
      | .error fault => .error fault
      | .ok (c, taken) => (stringChars (rest.drop taken)).map fun (cs, r) => (c :: cs, r)
    else if c < ' ' then peek .controlCharacter (c :: rest)
    else (stringChars rest).map fun (cs, r) => (c :: cs, r)
termination_by s => s.length
decreasing_by all_goals simp only [List.length_cons, List.length_drop]; omega

/-- A string whose opening quote has been read. -/
def stringBody : Reader String := fun s =>
  (stringChars s).map fun (cs, r) => (String.ofList cs, r)

/-! ### Numbers -/

/-- Takes digits as long as the number they make up is a size; gives that number and the digits
left over. -/
def takeSize (n : Nat) : List Char → Nat × List Char
  | [] => (n, [])
  | c :: rest =>
    let next := 10 * n + Decimal.digitValue c
    if next < Decimal.sizeLimit then takeSize next rest else (n, c :: rest)

/-- Digits past the size of a significand count only as places, and then only those before the
point. -/
def floatOf? (negative : Bool) (whole fraction : List Char) (exponent : Int) : Option Number :=
  let (n, spilled) := takeSize 0 whole
  let (m, unread) := takeSize n fraction
  let k := exponent + spilled.length - (fraction.length - unread.length)
  (Decimal.Binary64.ofDecimal? negative m k).map .float

/-- A whole number is an integer if 64 bits can hold it; minus zero is not. -/
def wholeOf? (negative : Bool) (digits : List Char) : Option Number :=
  let n := Decimal.value digits
  if negative then
    if 0 < n ∧ n ≤ Nat.pow 2 63 then some (.integer (-n)) else floatOf? true digits [] 0
  else if n < Decimal.sizeLimit then some (.integer n) else floatOf? false digits [] 0

/-- Reads the digits of an exponent and stops after the first one that makes it too large. -/
def exponentDigits (n : Nat) : List Char → Option Nat × List Char
  | [] => (some n, [])
  | c :: rest =>
    if c.isDigit then
      let next := 10 * n + Decimal.digitValue c
      if next < Nat.pow 2 31 then exponentDigits next rest else (none, rest)
    else (some n, c :: rest)

def numberOr (rest : List Char) : Option Number → Except Fault (Number × List Char)
  | some n => .ok (n, rest)
  | none => stop .numberTooLarge rest

def isZeros (digits : List Char) : Bool := digits.all (· == '0')

/-- The part of a number after its exponent mark. -/
def exponentPart (negative : Bool) (whole fraction : List Char) : Reader Number := fun s =>
  let (up, s) := match s with
    | '+' :: r => (true, r)
    | '-' :: r => (false, r)
    | r => (true, r)
  match s with
  | [] => stop .endInValue []
  | c :: rest =>
    if c.isDigit then
      match exponentDigits (Decimal.digitValue c) rest with
      | (some n, r) => numberOr r (floatOf? negative whole fraction (if up then n else -n))
      | (none, r) =>
        if up && !isZeros (whole ++ fraction) then stop .numberTooLarge r
        else numberOr (r.dropWhile Char.isDigit) (some (.float ⟨negative, 0, 0⟩))
    else peek .badNumber (c :: rest)

/-- The part of a number after its point. -/
def fractionPart (negative : Bool) (whole : List Char) : Reader Number := fun s =>
  let fraction := s.takeWhile Char.isDigit
  let rest := s.dropWhile Char.isDigit
  if fraction.isEmpty then
    peek (if rest.isEmpty then .endInValue else .badNumber) rest
  else match rest with
    | 'e' :: r => exponentPart negative whole fraction r
    | 'E' :: r => exponentPart negative whole fraction r
    | r => numberOr r (floatOf? negative whole fraction 0)

/-- The part of a number after its whole digits. -/
def afterWhole (negative : Bool) (whole : List Char) : Reader Number
  | '.' :: r => fractionPart negative whole r
  | 'e' :: r => exponentPart negative whole [] r
  | 'E' :: r => exponentPart negative whole [] r
  | r => numberOr r (wholeOf? negative whole)

/-- A number whose sign has been read. -/
def signedNumber (negative : Bool) : Reader Number
  | [] => stop .endInValue []
  | '0' :: rest =>
    if (rest.head?.map Char.isDigit).getD false then peek .badNumber rest
    else afterWhole negative ['0'] rest
  | c :: rest =>
    if c.isDigit then
      afterWhole negative (c :: rest.takeWhile Char.isDigit) (rest.dropWhile Char.isDigit)
    else peek .badNumber (c :: rest)

/-! ### Values -/

/-- How a value begins: with all of a scalar, or with a bracket that has not been read yet. -/
inductive Lead where
  | scalar (v : Json)
  | array
  | object

def lead : Reader Lead := fun s =>
  match skipBlank s with
  | [] => peek .endInValue []
  | 'n' :: r => (word ['u', 'l', 'l'] r).map fun r => (.scalar .null, r)
  | 't' :: r => (word ['r', 'u', 'e'] r).map fun r => (.scalar (.bool true), r)
  | 'f' :: r => (word ['a', 'l', 's', 'e'] r).map fun r => (.scalar (.bool false), r)
  | '"' :: r => (stringBody r).map fun (s, r) => (.scalar (.string s), r)
  | '-' :: r => (signedNumber true r).map fun (n, r) => (.scalar (.number n), r)
  | '[' :: r => .ok (.array, '[' :: r)
  | '\x7b' :: r => .ok (.object, '\x7b' :: r)
  | c :: r =>
    if c.isDigit then (signedNumber false (c :: r)).map fun (n, r) => (.scalar (.number n), r)
    else peek .noValue (c :: r)

/-- Array items from the first one on; the fuel bounds their number. -/
def itemsFrom {α : Type} (item : Reader α) : Nat → Reader (List α)
  | 0, s => stop .endInArray s
  | fuel + 1, s => do
    let (x, s) ← item s
    match skipBlank s with
    | [] => peek .endInArray []
    | ']' :: r => .ok ([x], r)
    | ',' :: r =>
      match skipBlank r with
      | [] => peek .endInValue []
      | ']' :: r => peek .trailingComma (']' :: r)
      | r => (itemsFrom item fuel r).map fun (xs, r) => (x :: xs, r)
    | r => peek .noArrayEnd r

/-- The items of an array whose opening bracket has been read. -/
def items {α : Type} (item : Reader α) : Reader (List α) := fun s =>
  match skipBlank s with
  | [] => peek .endInArray []
  | ']' :: r => .ok ([], r)
  | r => itemsFrom item (r.length + 1) r

/-- Reads the colon after a key. -/
def colon (s : List Char) : Except Fault (List Char) :=
  match skipBlank s with
  | [] => peek .endInObject []
  | ':' :: r => .ok r
  | r => peek .noColon r

/-- Object members from the first key on, whose opening quote has been read. `entry` is given
what the members before made up and the key, and reads on from the end of the key. -/
def membersFrom {σ : Type} (entry : σ → String → Reader σ) : Nat → σ → Reader σ
  | 0, _, s => stop .endInObject s
  | fuel + 1, state, s => do
    let (key, s) ← stringBody s
    let (state, s) ← entry state key s
    match skipBlank s with
    | [] => peek .endInObject []
    | '\x7d' :: r => .ok (state, r)
    | ',' :: r =>
      match skipBlank r with
      | [] => peek .endInValue []
      | '"' :: r => membersFrom entry fuel state r
      | '\x7d' :: r => peek .trailingComma ('\x7d' :: r)
      | r => peek .keyNotString r
    | r => peek .noObjectEnd r

/-- The members of an object whose opening brace has been read. -/
def members {σ : Type} (entry : σ → String → Reader σ) (state : σ) : Reader σ := fun s =>
  match skipBlank s with
  | [] => peek .endInObject []
  | '\x7d' :: r => .ok (state, r)
  | '"' :: r => membersFrom entry (r.length + 1) state r
  | r => peek .keyNotString r

/-- A member that is kept whatever its name and value. -/
def anyMember (value : Reader Json) (soFar : List (String × Json)) (key : String) :
    Reader (List (String × Json)) := fun s => do
  let s ← colon s
  let (v, s) ← value s
  .ok ((key, v) :: soFar, s)

/-- Any value in which at most `depth` brackets are open at a time. -/
def value : Nat → Reader Json
  | 0 => fun s => do
    match ← lead s with
    | (.scalar v, r) => .ok (v, r)
    | (_, r) => peek .tooDeep r
  | depth + 1 => fun s => do
    match ← lead s with
    | (.scalar v, r) => .ok (v, r)
    | (.array, r) => (items (value depth) (r.drop 1)).map fun (vs, r) => (.array vs, r)
    | (.object, r) =>
      (members (anyMember (value depth)) [] (r.drop 1)).map fun (ms, r) => (.object ms.reverse, r)

/-- The number of brackets that may be open at a time. -/
def depthLimit : Nat := 127

/-- Reads a whole text, in which only blanks may follow. -/
def document {α : Type} (read : Reader α) (text : String) : Except Located α :=
  match read text.toList with
  | .error fault => .error (fault.locate text)
  | .ok (v, rest) =>
    match skipBlank rest with
    | [] => .ok v
    | r => .error (Fault.locate ⟨.trailingCharacters, byteCount r - 1⟩ text)

/-- The value that a text denotes. -/
def parse (text : String) : Except Located Json := document (value depthLimit) text

/-- The place at which an error about a member of an object is reported: past the blanks that
follow, and past the closing brace if it comes next. -/
def afterClosing (s : List Char) : List Char :=
  match skipBlank s with
  | '\x7d' :: r => r
  | r => r

end Scaffold.Json
