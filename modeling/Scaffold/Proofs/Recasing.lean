import Scaffold.Proofs.Tokens

/-!
Casings one after the other.

What a casing makes of an ASCII text is the same text up to case, and it depends on the text up to
case alone. So of several casings the last one decides, and texts that one casing makes equal are
made equal by every other. The names in the code of a component are its own name under a casing, so
two components share all of these names or none.
-/
namespace Scaffold

open Template (Casing)

namespace Text

variable {s s' t : String} {c : Char} {cs : List Char}

/-! ### What differs in case alone -/

theorem Alike.length_eq (h : Alike s s') : s'.length = s.length := by
  have hlength := congrArg List.length h
  simpa only [List.length_map, String.length_toList] using hlength

theorem Alike.ascii (h : Alike s s') (hs : ∀ c ∈ s.toList, isAscii c = true) :
    ∀ c ∈ s'.toList, isAscii c = true := by
  intro c hc
  have hlow : c.toLower ∈ s.toList.map Char.toLower := h ▸ List.mem_map_of_mem hc
  obtain ⟨d, hd, hdc⟩ := List.mem_map.1 hlow
  calc isAscii c
    _ = isAscii c.toLower := (isAscii_toLower c).symm
    _ = isAscii d.toLower := by rw [hdc]
    _ = isAscii d := isAscii_toLower d
    _ = true := hs d hd

/-- Where one text has no letter, the other has the same character. -/
theorem Alike.getElem?_eq (h : Alike s s') {i : Nat} (hi : s.toList[i]? = some c)
    (hc : c.isAlpha = false) : s'.toList[i]? = some c := by
  have hlow : (s'.toList.map Char.toLower)[i]? = some c.toLower := by
    rw [h, List.getElem?_map, hi]
    rfl
  rw [List.getElem?_map] at hlow
  obtain ⟨d, hd, hdc⟩ := Option.map_eq_some_iff.1 hlow
  -- then that character is no letter either, and each of the two is its own lower case
  have hd' : d.isAlpha = false := by
    rw [← isAlpha_toLower, hdc, isAlpha_toLower, hc]
  have hsame : d = c := by
    rw [← toLower_of_isAlpha_eq_false hd', hdc, toLower_of_isAlpha_eq_false hc]
  rw [hd, hsame]

theorem utf8ByteSize_ofList_ascii (hcs : ∀ c ∈ cs, isAscii c = true) :
    (String.ofList cs).utf8ByteSize = cs.length := by
  induction cs with
  | nil => rfl
  | cons c cs ih =>
    obtain ⟨hc, hrest⟩ := List.forall_mem_cons.1 hcs
    have hone : c.utf8Size = 1 := by
      apply Char.utf8Size_eq_one_iff.2
      have hlt : c.val.toNat < 128 := of_decide_eq_true hc
      rw [UInt32.le_iff_toNat_le]
      exact Nat.le_of_lt_succ hlt
    rw [String.ofList_cons, String.utf8ByteSize_append, String.utf8ByteSize_singleton, hone,
      ih hrest, List.length_cons, Nat.add_comm]

theorem utf8ByteSize_ascii (hs : ∀ c ∈ s.toList, isAscii c = true) :
    s.utf8ByteSize = s.length := by
  have h := utf8ByteSize_ofList_ascii hs
  rwa [String.ofList_toList, String.length_toList] at h

/-! ### Casings up to case -/

theorem alike_apply (f : Casing) (hs : ∀ c ∈ s.toList, isAscii c = true) :
    Alike s (f.apply s) := by
  cases f with
  | upper => exact alike_upper hs
  | lower => exact alike_lower hs
  | title => exact alike_title hs

/-- A casing depends on the letters and not on their case, so it may read them in lower case. -/
theorem apply_lower (f : Casing) (hs : ∀ c ∈ s.toList, isAscii c = true) :
    f.apply (lower s) = f.apply s := by
  have hlow := toList_lower hs
  have hascii := (alike_lower hs).ascii hs
  apply String.toList_inj.1
  cases f with
  | upper =>
    calc (upper (lower s)).toList
      _ = (s.toList.map Char.toLower).map Char.toUpper := by rw [toList_upper hascii, hlow]
      _ = s.toList.map (Char.toUpper ∘ Char.toLower) := List.map_map
      _ = s.toList.map Char.toUpper :=
        List.map_congr_left fun c hc => toUpper_toLower (hs c hc)
      _ = (upper s).toList := (toList_upper hs).symm
  | lower =>
    calc (lower (lower s)).toList
      _ = (lower s).toList.map Char.toLower := toList_lower hascii
      _ = s.toList.map Char.toLower := alike_lower hs
      _ = (lower s).toList := hlow.symm
  | title =>
    calc (title (lower s)).toList
      _ = titleFrom false (s.toList.map Char.toLower) := by rw [title, String.toList_ofList, hlow]
      _ = titleFrom false s.toList := titleFrom_map_toLower false hs
      _ = (title s).toList := by rw [title, String.toList_ofList]

/-- A casing makes two texts equal just if they differ in case alone. -/
theorem apply_eq_apply_iff (f : Casing) (hs : ∀ c ∈ s.toList, isAscii c = true)
    (ht : ∀ c ∈ t.toList, isAscii c = true) : f.apply s = f.apply t ↔ Alike s t := by
  constructor
  · intro h
    calc t.toList.map Char.toLower
      _ = (f.apply t).toList.map Char.toLower := (alike_apply f ht).symm
      _ = (f.apply s).toList.map Char.toLower := by rw [h]
      _ = s.toList.map Char.toLower := alike_apply f hs
  · intro h
    have hlower : lower s = lower t := by
      apply String.toList_inj.1
      rw [toList_lower hs, toList_lower ht, h]
    calc f.apply s
      _ = f.apply (lower s) := (apply_lower f hs).symm
      _ = f.apply (lower t) := by rw [hlower]
      _ = f.apply t := apply_lower f ht

theorem apply_apply (f g : Casing) (hs : ∀ c ∈ s.toList, isAscii c = true) :
    g.apply (f.apply s) = g.apply s := by
  have halike := alike_apply f hs
  exact ((apply_eq_apply_iff g hs (halike.ascii hs)).2 halike).symm

end Text

open Text in
/-- On ASCII a casing changes nothing but letters, and of each of them only the case. What came
before it makes no difference to a casing. It makes two names equal just if every other one does, and
then the two components have the same guard, namespace and classes. -/
theorem casings_agree {s t : String} (hs : ∀ c ∈ s.toList, isAscii c = true)
    (ht : ∀ c ∈ t.toList, isAscii c = true) :
    (∀ f : Casing, (f.apply s).length = s.length ∧
      (f.apply s).utf8ByteSize = s.utf8ByteSize ∧
      ∀ (i : Nat) (c : Char), s.toList[i]? = some c → c.isAlpha = false →
        (f.apply s).toList[i]? = some c) ∧
    (∀ f g : Casing, g.apply (f.apply s) = g.apply s) ∧
    (∀ f g : Casing, f.apply s = f.apply t ↔ g.apply s = g.apply t) ∧
    ∀ r r' : Request, r.name = s → r'.name = t →
      let names := r.tokens.names
      let names' := r'.tokens.names
      (r.tokens.guard = r'.tokens.guard ↔ names.space = names'.space) ∧
      (names.space = names'.space ↔ names.visitor = names'.visitor) ∧
      (names.space = names'.space ↔ names.backend = names'.backend) ∧
      (names.space = names'.space ↔ names.tgpBackend = names'.tgpBackend) := by
  have hagree (f g : Casing) : f.apply s = f.apply t ↔ g.apply s = g.apply t :=
    (apply_eq_apply_iff f hs ht).trans (apply_eq_apply_iff g hs ht).symm
  refine ⟨?_, fun f g => apply_apply f g hs, hagree, ?_⟩
  · intro f
    have halike := alike_apply f hs
    refine ⟨halike.length_eq, ?_, fun i c hi hc => halike.getElem?_eq hi hc⟩
    rw [utf8ByteSize_ascii (halike.ascii hs), utf8ByteSize_ascii hs, halike.length_eq]
  · intro r r' hr hr'
    subst hr hr'
    -- each name is a casing with fixed text around it, which can be cancelled
    have hguard : r.tokens.guard = r'.tokens.guard ↔ upper r.name = upper r'.name :=
      (String.append_left_inj "_BACKEND_H__").trans (String.append_right_inj "__")
    have hspace : r.tokens.names.space = r'.tokens.names.space ↔ lower r.name = lower r'.name :=
      String.append_left_inj "_backend"
    have hclass (word : String) : title r.name ++ word = title r'.name ++ word ↔
        title r.name = title r'.name := String.append_left_inj word
    have htitle (word : String) : r.tokens.names.space = r'.tokens.names.space ↔
        title r.name ++ word = title r'.name ++ word :=
      (hspace.trans (hagree .lower .title)).trans (hclass word).symm
    refine ⟨?_, htitle "Body", htitle "Backend", htitle "TgpBackend"⟩
    exact (hguard.trans (hagree .upper .lower)).trans hspace.symm

/-- Two names of the same letters, and of the same other characters. -/
theorem casings_agree_mixed :
    let s := "x86_aSM-q"
    let t := "X86_asm-Q"
    (∀ c ∈ s.toList, Text.isAscii c = true) ∧ (∀ c ∈ t.toList, Text.isAscii c = true) ∧
      (Text.title s).length = s.length ∧ Text.upper (Text.title s) = Text.upper s ∧
      Text.lower (Text.title s) = Text.lower s ∧ Text.title (Text.upper s) = Text.title s ∧
      (Text.upper s = Text.upper t ↔ Text.title s = Text.title t) ∧
      ((Request.named s).tokens.guard = (Request.named t).tokens.guard ↔
        (Request.named s).tokens.names.space = (Request.named t).tokens.names.space) := by
  intro s t
  have hs : ∀ c ∈ s.toList, Text.isAscii c = true := List.all_eq_true.1 (by decide)
  have ht : ∀ c ∈ t.toList, Text.isAscii c = true := List.all_eq_true.1 (by decide)
  obtain ⟨hkept, hlast, hsame, hnames⟩ := casings_agree hs ht
  exact ⟨hs, ht, (hkept .title).1, hlast .title .upper, hlast .title .lower, hlast .upper .title,
    hsame .upper .title, (hnames (.named s) (.named t) rfl rfl).1⟩

end Scaffold
