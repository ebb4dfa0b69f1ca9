import Mathlib.Data.List.Forall2
import Scaffold.Json.Printer
import Scaffold.Proofs.Reading

/-!
JSON texts that are read back.

In either style, what the printer writes is read as the value that was written, whatever follows it.
Strings come back character by character; the items of an array and the members of an object come
back if each of them does. Values with numbers in them are left out, since none is ever printed.
-/
namespace Scaffold.Json

variable {c : Char} {rest : List Char}

/-! ### Strings -/

theorem hexValue?_unitEscape (h : c < ' ') : ∃ digits : List Char,
    unitEscape c = '\\' :: 'u' :: digits ∧ digits.length = 4 ∧ byteCount digits = 4 ∧
      hexValue? digits = some c.toNat := by
  -- there are no more than 32 such characters, so all of them can be looked at
  have hsmall : ∀ n < 32, (unitEscape (Char.ofNat n)).take 2 = ['\\', 'u'] ∧
      ((unitEscape (Char.ofNat n)).drop 2).length = 4 ∧
      byteCount ((unitEscape (Char.ofNat n)).drop 2) = 4 ∧
      hexValue? ((unitEscape (Char.ofNat n)).drop 2) = some n := by decide
  have hlt : c.toNat < 32 := h
  obtain ⟨htake, hlength, hbytes, hvalue⟩ := hsmall c.toNat hlt
  rw [Char.ofNat_toNat] at htake hlength hbytes hvalue
  refine ⟨(unitEscape c).drop 2, ?_, hlength, hbytes, hvalue⟩
  calc unitEscape c
    _ = (unitEscape c).take 2 ++ (unitEscape c).drop 2 := (List.take_append_drop 2 _).symm
    _ = '\\' :: 'u' :: (unitEscape c).drop 2 := by rw [htake]; rfl

theorem unicodeEscape_digits {digits : List Char} (hlength : digits.length = 4)
    (hbytes : byteCount digits = 4) (hvalue : hexValue? digits = some c.toNat) (h : c < ' ')
    (rest : List Char) : unicodeEscape (digits ++ rest) = .ok (c, 4) := by
  have htake : (digits ++ rest).take 4 = digits := by
    rw [← hlength, List.take_left]
  have hunit : codeUnit (digits ++ rest) = .ok c.toNat := by
    rw [codeUnit, htake, hbytes, if_neg (Nat.lt_irrefl 4), hvalue]
  -- a control character is no half of a pair, so the escape stands alone
  have hlt : c.toNat < 32 := h
  have htrail : isTrailSurrogate c.toNat = false := by
    simp [isTrailSurrogate]
    omega
  have hlead : isLeadSurrogate c.toNat = false := by
    simp [isLeadSurrogate]
    omega
  rw [unicodeEscape, hunit]
  change (if isTrailSurrogate c.toNat = true then _ else _) = _
  rw [htrail, hlead, Char.ofNat_toNat]
  rfl

/-- An escape gives the character that it stands for. -/
theorem stringChars_escape (text : List Char) {taken : Nat}
    (h : escape (text ++ rest) = .ok (c, taken)) (ht : text.length = taken) :
    stringChars ('\\' :: text ++ rest) =
      (stringChars rest).map fun (cs, r) => (c :: cs, r) := by
  rw [List.cons_append, stringChars, if_neg (by decide), if_pos rfl, h]
  simp only [← ht, List.drop_left]

theorem stringChars_escaped (c : Char) (rest : List Char) :
    stringChars (escaped c ++ rest) = (stringChars rest).map fun (cs, r) => (c :: cs, r) := by
  rw [escaped]
  -- the escapes of one letter in the order in which they are tried, then a control character
  -- that has none, then a character that stands for itself
  split_ifs with hquote hslash hback hfeed hline hreturn htab hcontrol
  · subst hquote
    exact stringChars_escape ['"'] rfl rfl
  · subst hslash
    exact stringChars_escape ['\\'] rfl rfl
  · subst hback
    exact stringChars_escape ['b'] rfl rfl
  · subst hfeed
    exact stringChars_escape ['f'] rfl rfl
  · subst hline
    exact stringChars_escape ['n'] rfl rfl
  · subst hreturn
    exact stringChars_escape ['r'] rfl rfl
  · subst htab
    exact stringChars_escape ['t'] rfl rfl
  · obtain ⟨digits, hunit, hlength, hbytes, hvalue⟩ := hexValue?_unitEscape hcontrol
    have hescape : escape (('u' :: digits) ++ rest) = .ok (c, 5) := by
      rw [List.cons_append, escape, unicodeEscape_digits hlength hbytes hvalue hcontrol]
      rfl
    rw [hunit]
    exact stringChars_escape ('u' :: digits) hescape (by simp [hlength])
  · rw [List.singleton_append, stringChars, if_neg hquote, if_neg hslash, if_neg hcontrol]

theorem stringChars_flatMap_escaped (cs rest : List Char) :
    stringChars (cs.flatMap escaped ++ '"' :: rest) = .ok (cs, rest) := by
  induction cs with
  | nil => rw [List.flatMap_nil, List.nil_append, stringChars, if_pos rfl]
  | cons c cs ih =>
    rw [List.flatMap_cons, List.append_assoc, stringChars_escaped, ih]
    rfl

/-- A string is read back from its text after the opening quote. -/
theorem stringBody_stringText (s : String) (rest : List Char) :
    stringBody ((stringText s).tail ++ rest) = .ok (s, rest) := by
  have htext : (stringText s).tail ++ rest = s.toList.flatMap escaped ++ '"' :: rest := by
    simp [stringText]
  rw [htext, stringBody, stringChars_flatMap_escaped]
  exact congrArg (fun s => Except.ok (s, rest)) String.ofList_toList

/-! ### Blanks -/

theorem Style.blank_gap (style : Style) (level : Nat) : Blank (style.gap level) := by
  intro c hc
  cases style with
  | compact => cases hc
  | pretty =>
    rcases List.mem_cons.1 hc with rfl | hc
    · rfl
    · rw [List.eq_of_mem_replicate hc]
      rfl

theorem Style.blank_space (style : Style) : Blank style.space := by
  cases style <;> decide

theorem value_append {blanks : List Char} (h : Blank blanks) (depth : Nat) (s : List Char) :
    value depth (blanks ++ s) = value depth s := by
  cases depth <;> simp only [value, lead_append h]

/-! ### Arrays -/

/-- The texts after the first, with what stands between them and the closing bracket. -/
def Style.afterFirst (style : Style) (closing : Char) (level : Nat) (texts : List (List Char))
    (rest : List Char) : List Char :=
  texts.flatMap (fun text => ',' :: style.gap (level + 1) ++ text)
    ++ (style.gap level ++ closing :: rest)

section

variable {style : Style} {closing : Char} {level : Nat} {texts : List (List Char)}

theorem Style.enclose_cons (opening : Char) (text : List Char) :
    style.enclose opening closing level (text :: texts) ++ rest =
      opening ::
        (style.gap (level + 1) ++ (text ++ style.afterFirst closing level texts rest)) := by
  simp [enclose, afterFirst]

theorem Style.afterFirst_cons (text : List Char) :
    style.afterFirst closing level (text :: texts) rest =
      ',' :: (style.gap (level + 1) ++ (text ++ style.afterFirst closing level texts rest)) := by
  simp [afterFirst]

theorem Style.length_le_afterFirst :
    texts.length ≤ (style.afterFirst closing level texts rest).length := by
  induction texts with
  | nil => exact Nat.zero_le _
  | cons text texts ih =>
    rw [afterFirst_cons]
    simp only [List.length_append, List.length_cons]
    omega

end

section

variable {α : Type} {item : Reader α} {style : Style} {level fuel : Nat}

/-- A reader takes a text for a value, whatever follows. -/
def Takes (read : Reader α) (text : List Char) (x : α) : Prop :=
  ∀ rest, read (text ++ rest) = .ok (x, rest)

/-- A text that begins with something other than a blank or the end of an array. -/
def Solid (text : List Char) : Prop := ∃ c cs, text = c :: cs ∧ isBlank c = false ∧ c ≠ ']'

theorem Solid.skipBlank_eq {text : List Char} (h : Solid text) (rest : List Char) :
    skipBlank (text ++ rest) = text ++ rest := by
  obtain ⟨c, cs, rfl, hc, -⟩ := h
  exact skipBlank_cons hc _

theorem Style.skipBlank_gap_cons (style : Style) (level : Nat) (h : isBlank c = false)
    (rest : List Char) : skipBlank (style.gap level ++ c :: rest) = c :: rest := by
  rw [skipBlank_append (style.blank_gap level), skipBlank_cons h]

theorem itemsFrom_texts (style : Style) (level : Nat) {texts : List (List Char)} {xs : List α}
    {text : List Char} {x : α} (hx : Takes item text x)
    (hxs : List.Forall₂ (fun text x => Solid text ∧ Takes item text x) texts xs)
    (hfuel : xs.length < fuel) (rest : List Char) :
    itemsFrom item fuel (text ++ style.afterFirst ']' level texts rest) = .ok (x :: xs, rest) := by
  -- the first item is kept apart, since no comma comes before it
  induction hxs generalizing text x fuel with
  | nil =>
    obtain ⟨fuel, rfl⟩ : ∃ n, fuel = n + 1 := ⟨fuel - 1, by omega⟩
    exact itemsFrom_succ_eq_ok_iff.2
      ⟨x, _, hx _, Or.inl ⟨style.skipBlank_gap_cons level (by decide) rest, rfl⟩⟩
  | @cons text' x' texts xs hx' _ ih =>
    obtain ⟨fuel, rfl⟩ : ∃ n, fuel = n + 1 := ⟨fuel - 1, by omega⟩
    have hfuel' : xs.length < fuel := by simpa using hfuel
    have hrest := ih hx'.2 hfuel'
    have hgap := skipBlank_append (style.blank_gap (level + 1))
      (text' ++ style.afterFirst ']' level texts rest)
    rw [hx'.1.skipBlank_eq] at hgap
    obtain ⟨c, cs, rfl, -, hc⟩ := hx'.1
    rw [Style.afterFirst_cons]
    exact itemsFrom_succ_eq_ok_iff.2 ⟨x, _, hx _,
      Or.inr ⟨_, c, _, _, skipBlank_cons (by decide) _, hgap, hc, hrest, rfl⟩⟩

/-- The items of an array are read back if each of them is. -/
theorem items_enclose {texts : List (List Char)} {xs : List α}
    (h : List.Forall₂ (fun text x => Solid text ∧ Takes item text x) texts xs)
    (rest : List Char) : ∃ s, style.enclose '[' ']' level texts ++ rest = '[' :: s ∧
      items item s = .ok (xs, rest) := by
  cases h with
  | nil => exact ⟨_, rfl, rfl⟩
  | @cons text x texts xs hx hxs =>
    refine ⟨_, style.enclose_cons '[' text, ?_⟩
    have hgap := skipBlank_append (style.blank_gap (level + 1))
      (text ++ style.afterFirst ']' level texts rest)
    rw [hx.1.skipBlank_eq] at hgap
    have hlength : texts.length ≤ (style.afterFirst ']' level texts rest).length :=
      Style.length_le_afterFirst
    have hfuel : xs.length < (text ++ style.afterFirst ']' level texts rest).length + 1 := by
      rw [← hxs.length_eq, List.length_append]
      omega
    have hitems := itemsFrom_texts style level hx.2 hxs hfuel rest
    obtain ⟨c, cs, rfl, -, hc⟩ := hx.1
    exact items_eq_ok_iff.2 (Or.inr ⟨c, _, hgap, hc, hitems⟩)

end

/-! ### Objects -/

section

variable {σ : Type} {entry : σ → String → Reader σ} {read : Reader Json} {style : Style}
  {level fuel : Nat}

/-- A text that is read back as a member. -/
def MemberText (style : Style) (read : Reader Json) (text : List Char) (m : String × Json) :
    Prop :=
  ∃ valueText, text = style.memberText m.1 valueText ∧ Takes read (style.space ++ valueText) m.2

theorem MemberText.append_eq {text : List Char} {m : String × Json}
    (h : MemberText style read text m) (rest : List Char) :
    text ++ rest = '"' :: (text.tail ++ rest) := by
  obtain ⟨valueText, rfl, -⟩ := h
  rfl

theorem MemberText.read_eq {text : List Char} {m : String × Json}
    (h : MemberText style read text m) (soFar : List (String × Json)) (rest : List Char) :
    ∃ s, stringBody (text.tail ++ rest) = .ok (m.1, s) ∧
      anyMember read soFar m.1 s = .ok (m :: soFar, rest) := by
  obtain ⟨valueText, rfl, hvalue⟩ := h
  refine ⟨':' :: (style.space ++ valueText ++ rest), ?_, ?_⟩
  · have htext : (style.memberText m.1 valueText).tail ++ rest =
        (stringText m.1).tail ++ (':' :: (style.space ++ valueText ++ rest)) := by
      simp [Style.memberText, stringText]
    rw [htext, stringBody_stringText]
  · exact anyMember_eq_ok_iff.2 ⟨m.2, hvalue rest, rfl⟩

theorem membersFrom_texts (level : Nat) {texts : List (List Char)} {ms : List (String × Json)}
    {text : List Char} {m : String × Json} (hm : MemberText style read text m)
    (hms : List.Forall₂ (MemberText style read) texts ms) (hfuel : ms.length < fuel)
    (soFar : List (String × Json)) (rest : List Char) :
    membersFrom (anyMember read) fuel soFar
        (text.tail ++ style.afterFirst '\x7d' level texts rest) =
      .ok ((m :: ms).reverse ++ soFar, rest) := by
  induction hms generalizing text m fuel soFar with
  | nil =>
    obtain ⟨fuel, rfl⟩ : ∃ n, fuel = n + 1 := ⟨fuel - 1, by omega⟩
    obtain ⟨s, hkey, hentry⟩ := hm.read_eq soFar (style.afterFirst '\x7d' level [] rest)
    exact membersFrom_succ_eq_ok_iff.2 ⟨m.1, s, _, _, hkey, hentry,
      Or.inl ⟨style.skipBlank_gap_cons level (by decide) rest, rfl⟩⟩
  | @cons text' m' texts ms hm' _ ih =>
    obtain ⟨fuel, rfl⟩ : ∃ n, fuel = n + 1 := ⟨fuel - 1, by omega⟩
    have hfuel' : ms.length < fuel := by simpa using hfuel
    have hrest := ih hm' hfuel' (m :: soFar)
    rw [Style.afterFirst_cons, hm'.append_eq]
    obtain ⟨s, hkey, hentry⟩ := hm.read_eq soFar
      (',' :: (style.gap (level + 1) ++ ('"' :: (text'.tail ++
        style.afterFirst '\x7d' level texts rest))))
    refine membersFrom_succ_eq_ok_iff.2 ⟨m.1, s, _, _, hkey, hentry, Or.inr
      ⟨_, _, skipBlank_cons (by decide) _, style.skipBlank_gap_cons _ (by decide) _, ?_⟩⟩
    rw [hrest]
    simp

/-- The members of an object are read back if each of them is. -/
theorem members_enclose {texts : List (List Char)} {ms : List (String × Json)}
    (h : List.Forall₂ (MemberText style read) texts ms) (rest : List Char) :
    ∃ s, style.enclose '\x7b' '\x7d' level texts ++ rest = '\x7b' :: s ∧
      members (anyMember read) [] s = .ok (ms.reverse, rest) := by
  cases h with
  | nil => exact ⟨_, rfl, rfl⟩
  | @cons text m texts ms hm hms =>
    refine ⟨_, style.enclose_cons '\x7b' text, ?_⟩
    have hlength : texts.length ≤ (style.afterFirst '\x7d' level texts rest).length :=
      Style.length_le_afterFirst
    have hfuel : ms.length <
        (text.tail ++ style.afterFirst '\x7d' level texts rest).length + 1 := by
      rw [← hms.length_eq, List.length_append]
      omega
    have hmembers := membersFrom_texts level hm hms hfuel [] rest
    rw [hm.append_eq]
    refine members_eq_ok_iff.2
      (Or.inr ⟨_, style.skipBlank_gap_cons (level + 1) (by decide) _, ?_⟩)
    simpa using hmembers

end

/-! ### Values -/

mutual

/-- The number of brackets that are open at a time. -/
def depth : Json → Nat
  | .null | .bool _ | .number _ | .string _ => 0
  | .array vs => itemsDepth vs + 1
  | .object ms => membersDepth ms + 1

def itemsDepth : List Json → Nat
  | [] => 0
  | v :: vs => max (depth v) (itemsDepth vs)

def membersDepth : List (String × Json) → Nat
  | [] => 0
  | (_, v) :: ms => max (depth v) (membersDepth ms)

end

mutual

/-- No number is in a value. -/
def Numberless : Json → Prop
  | .null | .bool _ | .string _ => True
  | .number _ => False
  | .array vs => NumberlessItems vs
  | .object ms => NumberlessMembers ms

def NumberlessItems : List Json → Prop
  | [] => True
  | v :: vs => Numberless v ∧ NumberlessItems vs

def NumberlessMembers : List (String × Json) → Prop
  | [] => True
  | (_, v) :: ms => Numberless v ∧ NumberlessMembers ms

end

theorem numberlessMembers_iff {ms : List (String × Json)} :
    NumberlessMembers ms ↔ ∀ m ∈ ms, m.2.Numberless := by
  induction ms with
  | nil => exact iff_of_true trivial (List.forall_mem_nil _)
  | cons m ms ih => rw [NumberlessMembers, ih, List.forall_mem_cons]

theorem membersDepth_le_iff {ms : List (String × Json)} {n : Nat} :
    membersDepth ms ≤ n ↔ ∀ m ∈ ms, m.2.depth ≤ n := by
  induction ms with
  | nil => exact iff_of_true (Nat.zero_le _) (List.forall_mem_nil _)
  | cons m ms ih => rw [membersDepth, Nat.max_le, ih, List.forall_mem_cons]

theorem numberless_strings (xs : List String) : NumberlessItems (xs.map .string) := by
  induction xs with
  | nil => trivial
  | cons x xs ih => exact ⟨trivial, ih⟩

theorem itemsDepth_strings (xs : List String) : itemsDepth (xs.map .string) = 0 := by
  induction xs with
  | nil => rfl
  | cons x xs ih =>
    rw [List.map_cons, itemsDepth, ih]
    rfl

theorem solid_chars (style : Style) (level : Nat) {v : Json} (h : v.Numberless) :
    Solid (chars style level v) := by
  cases v with
  | null => exact ⟨_, _, rfl, rfl, by decide⟩
  | bool b => cases b <;> exact ⟨_, _, rfl, rfl, by decide⟩
  | number n => exact h.elim
  | string s => exact ⟨_, _, rfl, rfl, by decide⟩
  | array vs =>
    rw [chars]
    cases itemChars style (level + 1) vs <;> exact ⟨_, _, rfl, rfl, by decide⟩
  | object ms =>
    rw [chars]
    cases memberChars style (level + 1) ms <;> exact ⟨_, _, rfl, rfl, by decide⟩

mutual

/-- A value without numbers is read back from its text if no more brackets are open in it than may
be. -/
theorem takes_chars (style : Style) (level : Nat) : (v : Json) → v.Numberless → {n : Nat} →
    v.depth ≤ n → Takes (value n) (chars style level v) v
  | .null, _, _, _ => fun _ => (value_eq_scalar (Or.inl rfl)).2 rfl
  | .bool true, _, _, _ => fun _ => (value_eq_scalar (v := .bool true) (Or.inr trivial)).2 rfl
  | .bool false, _, _, _ => fun _ => (value_eq_scalar (v := .bool false) (Or.inr trivial)).2 rfl
  | .string s, _, _, _ => fun rest => by
    have hlead : lead (stringText s ++ rest) = .ok (.scalar (.string s), rest) := by
      change (stringBody ((stringText s).tail ++ rest)).map _ = _
      rw [stringBody_stringText]
      rfl
    exact (value_eq_scalar (v := .string s) (Or.inr trivial)).2 hlead
  | .array vs, hv, n, hn => fun rest => by
    -- the bracket takes one of the levels, and the items have those that are left
    rw [depth] at hn
    obtain ⟨n, rfl⟩ : ∃ m, n = m + 1 := ⟨n - 1, by omega⟩
    have hitems := takes_itemChars style (level + 1) vs hv (Nat.le_of_succ_le_succ hn)
    obtain ⟨s, htext, hread⟩ := items_enclose hitems rest
    rw [chars, htext]
    exact value_eq_array.2 ⟨_, rfl, hread⟩
  | .object ms, hv, n, hn => fun rest => by
    rw [depth] at hn
    obtain ⟨n, rfl⟩ : ∃ m, n = m + 1 := ⟨n - 1, by omega⟩
    have hmembers := takes_memberChars style (level + 1) ms hv (Nat.le_of_succ_le_succ hn)
    obtain ⟨s, htext, hread⟩ := members_enclose hmembers rest
    rw [chars, htext]
    exact value_eq_object.2 ⟨_, rfl, membersOf_eq_ok_iff.2 hread⟩

theorem takes_itemChars (style : Style) (level : Nat) : (vs : List Json) → NumberlessItems vs →
    {n : Nat} → itemsDepth vs ≤ n →
      List.Forall₂ (fun text v => Solid text ∧ Takes (value n) text v)
        (itemChars style level vs) vs
  | [], _, _, _ => .nil
  | v :: vs, hvs, n, hn => by
    obtain ⟨hvn, hvsn⟩ := Nat.max_le.1 hn
    have hv := takes_chars style level v hvs.1 hvn
    have hrest := takes_itemChars style level vs hvs.2 hvsn
    exact .cons ⟨solid_chars style level hvs.1, hv⟩ hrest

theorem takes_memberChars (style : Style) (level : Nat) : (ms : List (String × Json)) →
    NumberlessMembers ms → {n : Nat} → membersDepth ms ≤ n →
      List.Forall₂ (MemberText style (value n)) (memberChars style level ms) ms
  | [], _, _, _ => .nil
  | (k, v) :: ms, hms, n, hn => by
    obtain ⟨hvn, hmsn⟩ := Nat.max_le.1 hn
    have hv := takes_chars style level v hms.1 hvn
    have hrest := takes_memberChars style level ms hms.2 hmsn
    refine .cons ⟨_, rfl, fun rest => ?_⟩ hrest
    rw [List.append_assoc, value_append style.blank_space]
    exact hv rest

end

/-! ### Documents -/

/-- A text in either style denotes the value that was written, also if blanks come after it. -/
theorem parse_print_append {v : Json} (hv : v.Numberless) (hdepth : v.depth ≤ depthLimit)
    (style : Style) {blanks : String} (hblanks : Blank blanks.toList) :
    parse (v.print style ++ blanks) = .ok v := by
  have hread := takes_chars style 0 v hv hdepth blanks.toList
  refine document_eq_ok_iff.2 ⟨blanks.toList, ?_, hblanks⟩
  rw [String.toList_append, print, String.toList_ofList]
  exact hread

theorem parse_print {v : Json} (hv : v.Numberless) (hdepth : v.depth ≤ depthLimit)
    (style : Style) : parse (v.print style) = .ok v := by
  have hblanks : Blank "".toList := by decide
  have hparse := parse_print_append hv hdepth style hblanks
  rwa [String.append_empty] at hparse

end Scaffold.Json
