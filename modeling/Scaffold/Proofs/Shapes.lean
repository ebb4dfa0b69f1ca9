import Scaffold.Params.Decode
import Scaffold.Proofs.Decoding
import Scaffold.Proofs.ReadBack
import Scaffold.Proofs.Tables

/-!
The values that stand for parameters.

A mapping is decoded from a text just when the value in the text has the right shapes. Nothing of
the value is lost but the members whose name comes again, at any depth.
-/
namespace Scaffold

namespace Json

/-- The shapes that the value of a parameter may have. -/
inductive IsParameter : Json → Prop where
  | bool (b : Bool) : IsParameter (.bool b)
  | string (s : String) : IsParameter (.string s)
  | strings (ss : List String) : IsParameter (.array (ss.map .string))
  | records (rows : List (List (String × Json))) (h : ∀ row ∈ rows, ∀ m ∈ row, IsParameter m.2) :
    IsParameter (.array (rows.map .object))

/-- An object of parameters; those whose name comes again count as well. -/
def IsMapping (v : Json) : Prop := ∃ ms, v = .object ms ∧ ∀ m ∈ ms, IsParameter m.2

section

variable (arrange : List (String × Json) → List (String × Json))

mutual

/-- A value with the members of every object in it arranged anew, from the inside out. -/
def rearrange : Json → Json
  | .array vs => .array (rearrangeItems vs)
  | .object ms => .object (arrange (rearrangeMembers ms))
  | v => v

def rearrangeItems : List Json → List Json
  | [] => []
  | v :: vs => rearrange v :: rearrangeItems vs

def rearrangeMembers : List (String × Json) → List (String × Json)
  | [] => []
  | (k, v) :: ms => (k, rearrange v) :: rearrangeMembers ms

end

theorem rearrangeItems_eq_map (vs : List Json) :
    rearrangeItems arrange vs = vs.map (rearrange arrange) := by
  induction vs with
  | nil => rfl
  | cons v vs ih => rw [rearrangeItems, ih, List.map_cons]

theorem rearrangeMembers_eq_map (ms : List (String × Json)) :
    rearrangeMembers arrange ms = ms.map (Prod.map id (rearrange arrange)) := by
  induction ms with
  | nil => rfl
  | cons m ms ih =>
    rw [rearrangeMembers, ih]
    rfl

end

/-- Without the members whose name comes again, at any depth. -/
def lastOnly : Json → Json := rearrange Table.lasts

/-- With members in ascending order of their names, at any depth. -/
def sorted : Json → Json := rearrange (Table.sorted compare)

/-- The canonical form of a value that may have repeated names. -/
def canonical (v : Json) : Json := v.lastOnly.sorted

theorem canonical_array (vs : List Json) : canonical (.array vs) = .array (vs.map canonical) := by
  rw [canonical, lastOnly, sorted, rearrange, rearrange, rearrangeItems_eq_map,
    rearrangeItems_eq_map, List.map_map]
  rfl

theorem canonical_object (ms : List (String × Json)) : canonical (.object ms) =
    .object (Table.insertAll compare [] (ms.map (Prod.map id canonical))) := by
  rw [canonical, lastOnly, sorted, rearrange, rearrange, rearrangeMembers_eq_map,
    rearrangeMembers_eq_map, Table.map_lasts, List.map_map, Table.insertAll_nil]
  rfl

end Json

namespace ParamValue

theorem strings?_eq_some_iff {items : List Json} {ss : List String} :
    strings? items = some ss ↔ items = ss.map .string := Json.mapM_string?_eq_some_iff

/-! ### Acceptance -/

mutual

theorem isParameter_of_ofJson? : (v : Json) → {x : ParamValue} → ofJson? v = some x →
    v.IsParameter
  | .bool b, _, _ => .bool b
  | .string s, _, _ => .string s
  | .array items, _, h => by
    rw [ofJson?] at h
    split at h
    · next ss hss =>
      rw [strings?_eq_some_iff.1 hss]
      exact .strings ss
    · obtain ⟨rows, hrows, -⟩ := Option.map_eq_some_iff.1 h
      obtain ⟨mss, rfl, hmss⟩ := isParameter_of_rowsOfJson? items hrows
      exact .records mss hmss
  | .null, _, h => by simp [ofJson?] at h
  | .number _, _, h => by simp [ofJson?] at h
  | .object _, _, h => by simp [ofJson?] at h

theorem isParameter_of_rowsOfJson? : (items : List Json) → {rows : List Row} →
    rowsOfJson? items = some rows →
      ∃ mss : List (List (String × Json)), items = mss.map .object ∧
        ∀ ms ∈ mss, ∀ m ∈ ms, m.2.IsParameter
  | [], _, _ => ⟨[], rfl, nofun⟩
  | .object members :: rest, _, h => by
    rw [rowsOfJson?] at h
    obtain ⟨row, hrow, h⟩ := Option.bind_eq_some_iff.1 h
    obtain ⟨rows, hrows, -⟩ := Option.bind_eq_some_iff.1 h
    obtain ⟨mss, rfl, hmss⟩ := isParameter_of_rowsOfJson? rest hrows
    have hmembers := isParameter_of_rowOfMembers? members hrow
    exact ⟨members :: mss, rfl, List.forall_mem_cons.2 ⟨hmembers, hmss⟩⟩
  | .null :: _, _, h => by simp [rowsOfJson?] at h
  | .bool _ :: _, _, h => by simp [rowsOfJson?] at h
  | .number _ :: _, _, h => by simp [rowsOfJson?] at h
  | .string _ :: _, _, h => by simp [rowsOfJson?] at h
  | .array _ :: _, _, h => by simp [rowsOfJson?] at h

theorem isParameter_of_rowOfMembers? : (members : List (String × Json)) → {row result : Row} →
    rowOfMembers? row members = some result → ∀ m ∈ members, m.2.IsParameter
  | [], _, _, _ => nofun
  | (_, v) :: rest, _, _, h => by
    rw [rowOfMembers?] at h
    obtain ⟨x, hx, h⟩ := Option.bind_eq_some_iff.1 h
    exact List.forall_mem_cons.2
      ⟨isParameter_of_ofJson? v hx, isParameter_of_rowOfMembers? rest h⟩

end

theorem exists_rowOfMembers? {members : List (String × Json)}
    (h : ∀ m ∈ members, ∃ x, ofJson? m.2 = some x) (row : Row) :
    ∃ result, rowOfMembers? row members = some result := by
  induction members generalizing row with
  | nil => exact ⟨row, by rw [rowOfMembers?]⟩
  | cons m members ih =>
    obtain ⟨⟨x, hx⟩, hrest⟩ := List.forall_mem_cons.1 h
    obtain ⟨result, hresult⟩ := ih hrest (Table.insert compare m.1 x row)
    refine ⟨result, ?_⟩
    rw [rowOfMembers?, hx]
    exact hresult

theorem exists_rowsOfJson? {mss : List (List (String × Json))}
    (h : ∀ ms ∈ mss, ∀ m ∈ ms, ∃ x, ofJson? m.2 = some x) :
    ∃ rows, rowsOfJson? (mss.map .object) = some rows := by
  induction mss with
  | nil => exact ⟨[], by rw [List.map_nil, rowsOfJson?]⟩
  | cons ms mss ih =>
    obtain ⟨hms, hrest⟩ := List.forall_mem_cons.1 h
    obtain ⟨row, hrow⟩ := exists_rowOfMembers? hms []
    obtain ⟨rows, hrows⟩ := ih hrest
    refine ⟨row :: rows, ?_⟩
    rw [List.map_cons, rowsOfJson?, hrow, hrows]
    rfl

/-- A value is taken for a parameter just when it has one of the shapes. -/
theorem exists_ofJson?_iff {v : Json} : (∃ x, ofJson? v = some x) ↔ v.IsParameter := by
  constructor
  · rintro ⟨x, h⟩
    exact isParameter_of_ofJson? v h
  · intro h
    induction h with
    | bool b => exact ⟨.bool b, by rw [ofJson?]⟩
    | string s => exact ⟨.str s, by rw [ofJson?]⟩
    | strings ss =>
      refine ⟨.list ss, ?_⟩
      rw [ofJson?, strings?_eq_some_iff.2 rfl]
    | records mss _ ih =>
      -- without any records, the array is taken for one of strings
      rw [ofJson?]
      split
      · exact ⟨_, rfl⟩
      · obtain ⟨rows, hrows⟩ := exists_rowsOfJson? ih
        exact ⟨.records rows, by rw [hrows]; rfl⟩

/-! ### What is kept -/

theorem rowToMembers_eq_map (row : Row) :
    rowToMembers row = row.map (Prod.map id toJson) := by
  induction row with
  | nil => rfl
  | cons e row ih =>
    rw [rowToMembers, ih]
    rfl

mutual

theorem toJson_of_ofJson? : (v : Json) → {x : ParamValue} → ofJson? v = some x →
    x.toJson = v.canonical
  | .bool _, _, h => by
    rw [ofJson?] at h
    cases h
    rfl
  | .string _, _, h => by
    rw [ofJson?] at h
    cases h
    rfl
  | .array items, _, h => by
    rw [ofJson?] at h
    rw [Json.canonical_array]
    split at h
    · next ss hss =>
      -- strings are in canonical form as they are
      cases h
      rw [strings?_eq_some_iff.1 hss, toJson, List.map_map]
      rfl
    · obtain ⟨rows, hrows, rfl⟩ := Option.map_eq_some_iff.1 h
      rw [toJson, rowsToJson_of_rowsOfJson? items hrows]
  | .null, _, h => by simp [ofJson?] at h
  | .number _, _, h => by simp [ofJson?] at h
  | .object _, _, h => by simp [ofJson?] at h

theorem rowsToJson_of_rowsOfJson? : (items : List Json) → {rows : List Row} →
    rowsOfJson? items = some rows → rowsToJson rows = items.map Json.canonical
  | [], _, h => by
    rw [rowsOfJson?] at h
    cases h
    rfl
  | .object members :: rest, _, h => by
    rw [rowsOfJson?] at h
    obtain ⟨row, hrow, h⟩ := Option.bind_eq_some_iff.1 h
    obtain ⟨rows, hrows, h⟩ := Option.bind_eq_some_iff.1 h
    cases h
    rw [rowsToJson, rowToMembers_of_rowOfMembers? members hrow,
      rowsToJson_of_rowsOfJson? rest hrows, List.map_cons, Json.canonical_object]
    rfl
  | .null :: _, _, h => by simp [rowsOfJson?] at h
  | .bool _ :: _, _, h => by simp [rowsOfJson?] at h
  | .number _ :: _, _, h => by simp [rowsOfJson?] at h
  | .string _ :: _, _, h => by simp [rowsOfJson?] at h
  | .array _ :: _, _, h => by simp [rowsOfJson?] at h

/-- A record has the members that it was made of inserted in turn. -/
theorem rowToMembers_of_rowOfMembers? : (members : List (String × Json)) → {row result : Row} →
    rowOfMembers? row members = some result →
      rowToMembers result = Table.insertAll compare (rowToMembers row)
        (members.map (Prod.map id Json.canonical))
  | [], _, _, h => by
    rw [rowOfMembers?] at h
    cases h
    rfl
  | (k, v) :: rest, _, _, h => by
    rw [rowOfMembers?] at h
    obtain ⟨x, hx, h⟩ := Option.bind_eq_some_iff.1 h
    rw [rowToMembers_of_rowOfMembers? rest h, rowToMembers_eq_map, Table.map_insert,
      toJson_of_ofJson? v hx, ← rowToMembers_eq_map]
    rfl

end

end ParamValue

namespace Params

open Json

variable {p q : Params} {key : String} {v : Json}

theorem insertJson?_eq_some_iff : p.insertJson? key v = some q ↔
    ∃ x, ParamValue.ofJson? v = some x ∧ q.entries = Table.insert compare key x p.entries := by
  rw [insertJson?]
  split
  · next x hx =>
    constructor
    · intro h
      cases h
      exact ⟨x, hx, rfl⟩
    · rintro ⟨y, hy, hq⟩
      obtain rfl : x = y := Option.some.inj (hx.symm.trans hy)
      exact congrArg some (ext hq.symm)
  · next hnone =>
    refine iff_of_false nofun ?_
    rintro ⟨x, hx, -⟩
    rw [hnone] at hx
    cases hx

theorem foldMembers_insertJson? {ms : List (String × Json)} :
    foldMembers insertJson? p ms = some q ↔
      ParamValue.rowOfMembers? p.entries ms = some q.entries := by
  induction ms generalizing p with
  | nil =>
    rw [ParamValue.rowOfMembers?, Option.some.injEq]
    constructor
    · intro h
      cases h
      rfl
    · intro h
      exact congrArg some (ext h)
  | cons m ms ih =>
    rw [foldMembers_cons_eq_some_iff, ParamValue.rowOfMembers?]
    constructor
    · rintro ⟨p', hp', hq⟩
      obtain ⟨x, hx, hentries⟩ := insertJson?_eq_some_iff.1 hp'
      refine Option.bind_eq_some_iff.2 ⟨x, hx, ?_⟩
      rw [← hentries]
      exact ih.1 hq
    · intro h
      obtain ⟨x, hx, hq⟩ := Option.bind_eq_some_iff.1 h
      refine ⟨p.insert m.1 x (ParamValue.canonical_ofJson? m.2 hx),
        insertJson?_eq_some_iff.2 ⟨x, hx, rfl⟩, ih.2 hq⟩

theorem ofJson?_eq_some_iff : ofJson? v = some p ↔
    ∃ ms, v = .object ms ∧ ParamValue.rowOfMembers? [] ms = some p.entries := by
  constructor
  · intro h
    cases v with
    | object ms => exact ⟨ms, rfl, foldMembers_insertJson?.1 h⟩
    | _ => cases h
  · rintro ⟨ms, rfl, h⟩
    exact (foldMembers_insertJson? (p := empty)).2 h

/-! ### Texts -/

theorem decodes_member (p : Params) (key : String) :
    Decodes (member p key) (afterColon (value (depthLimit - 1))) (p.insertJson? key) := by
  intro s q rest
  simp only [member, afterColon, bind_eq_ok_iff]
  constructor
  · rintro ⟨s', hcolon, ⟨v, r⟩, hv, h⟩
    simp only [] at h
    split at h
    · next p' hp' =>
      cases h
      exact ⟨v, ⟨s', hcolon, hv⟩, hp'⟩
    · cases h
  · rintro ⟨v, ⟨s', hcolon, hv⟩, hq⟩
    refine ⟨s', hcolon, (v, rest), hv, ?_⟩
    simp only [hq]

theorem decodes_reader : Decodes reader (value depthLimit) ofJson? := by
  intro s p rest
  have hmembers := members_decodes decodes_member empty
  rw [reader, bind_eq_ok_iff]
  constructor
  · rintro ⟨⟨found, r⟩, hlead, h⟩
    cases found with
    | scalar v => cases h
    | array => cases h
    | object =>
      obtain ⟨ms, hms, hfold⟩ := (hmembers _ _ _).1 h
      exact ⟨.object ms, value_eq_object.2 ⟨r, hlead, hms⟩, hfold⟩
  · rintro ⟨v, hv, hp⟩
    obtain ⟨ms, rfl, hrow⟩ := ofJson?_eq_some_iff.1 hp
    obtain ⟨r, hlead, hms⟩ := value_eq_object.1 hv
    exact ⟨(.object, r), hlead, (hmembers _ _ _).2 ⟨ms, hms, hp⟩⟩

/-- A text is decoded through the value in it. -/
theorem decode_eq_ok_iff {text : String} :
    decode text = .ok p ↔ ∃ v, parse text = .ok v ∧ ofJson? v = some p :=
  decodes_reader.document

theorem exists_ofJson?_iff : (∃ p, ofJson? v = some p) ↔ v.IsMapping := by
  constructor
  · rintro ⟨p, h⟩
    obtain ⟨ms, rfl, hrow⟩ := ofJson?_eq_some_iff.1 h
    exact ⟨ms, rfl, ParamValue.isParameter_of_rowOfMembers? ms hrow⟩
  · rintro ⟨ms, rfl, hms⟩
    have hvalues : ∀ m ∈ ms, ∃ x, ParamValue.ofJson? m.2 = some x :=
      fun m hm => ParamValue.exists_ofJson?_iff.2 (hms m hm)
    obtain ⟨row, hrow⟩ := ParamValue.exists_rowOfMembers? hvalues []
    obtain ⟨hascending, hcanonical⟩ := ParamValue.canonical_rowOfMembers? ms
      Table.ascending_nil (by simp [ParamValue.CanonicalRow]) hrow
    exact ⟨⟨row, hascending, hcanonical⟩, ofJson?_eq_some_iff.2 ⟨ms, rfl, hrow⟩⟩

theorem toJson_of_ofJson? (h : ofJson? v = some p) : p.toJson = v.canonical := by
  obtain ⟨ms, rfl, hrow⟩ := ofJson?_eq_some_iff.1 h
  rw [toJson, ParamValue.rowToMembers_of_rowOfMembers? ms hrow, canonical_object]
  rfl

/-- A text is decoded just when the value in it has the shapes of a mapping, and nothing of the
value is lost but the order of members and those whose name comes again. -/
theorem decode_shapes {text : String} (h : parse text = .ok v) :
    ((∃ p, decode text = .ok p) ↔ v.IsMapping) ∧
      ∀ p, decode text = .ok p → p.toJson = v.lastOnly.sorted := by
  have hdecode (p : Params) : decode text = .ok p ↔ ofJson? v = some p := by
    rw [decode_eq_ok_iff]
    constructor
    · rintro ⟨v', hv', hp⟩
      obtain rfl : v = v' := Except.ok.inj (h.symm.trans hv')
      exact hp
    · intro hp
      exact ⟨v, h, hp⟩
  constructor
  · simp only [hdecode]
    exact exists_ofJson?_iff
  · intro p hp
    exact toJson_of_ofJson? ((hdecode p).1 hp)

/-- Two names come again, one of them inside the other. -/
theorem decode_shapes_repeated :
    let row : List (String × Json) := [("key", .bool true), ("key", .array [.string "x"])]
    let v : Json := .object [("rows", .bool true), ("rows", .array [.object row])]
    let text := "\x7b\"rows\":true,\"rows\":[\x7b\"key\":true,\"key\":[\"x\"]\x7d]\x7d"
    parse text = .ok v ∧ v.IsMapping ∧ ∃ p, decode text = .ok p ∧
      p.toJson = .object [("rows", .array [.object [("key", .array [.string "x"])]])] := by
  intro row v text
  have htext : v.print .compact = text := by decide +kernel
  have hnumberless : v.Numberless := by
    simp [v, row, Numberless, NumberlessItems, NumberlessMembers]
  have hparse : parse text = .ok v := htext ▸ parse_print hnumberless (by decide) .compact
  have hrow : ∀ m ∈ row, IsParameter m.2 :=
    List.forall_mem_cons.2 ⟨.bool true, List.forall_mem_singleton.2 (.strings ["x"])⟩
  have hrows : IsParameter (.array [.object row]) :=
    .records [row] (List.forall_mem_singleton.2 hrow)
  have hmapping : v.IsMapping :=
    ⟨_, rfl, List.forall_mem_cons.2 ⟨.bool true, List.forall_mem_singleton.2 hrows⟩⟩
  obtain ⟨hsucceeds, hkeeps⟩ := decode_shapes hparse
  obtain ⟨p, hp⟩ := hsucceeds.2 hmapping
  refine ⟨hparse, hmapping, p, hp, ?_⟩
  rw [hkeeps p hp]
  simp [v, row, lastOnly, Json.sorted, rearrange, rearrangeItems, rearrangeMembers, Table.lasts,
    Table.sorted]

end Params

end Scaffold
