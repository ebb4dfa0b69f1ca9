import Scaffold.Proofs.Shapes

/-!
Parameters that are written and read back.

The encoder of texts agrees with the conversion to values, so that a mapping is read back from its
text as from its value. An empty list of records is the only thing that does not come back: its
text is that of an empty list of strings, and so it is read as one.
-/
namespace Scaffold

namespace ParamValue

/-! ### Encoding -/

mutual

theorem encode_json : (x : ParamValue) → x.encode .json = x.toJson
  | .bool _ => rfl
  | .str _ => rfl
  | .list _ => rfl
  | .records rows => by
    rw [encode, toJson, encodeRows_json rows]
    rfl

theorem encodeRows_json : (rows : List Row) → encodeRows .json rows = rowsToJson rows
  | [] => rfl
  | row :: rows => by
    rw [encodeRows, rowsToJson, encodeRow_json row, encodeRows_json rows]
    rfl

theorem encodeRow_json : (row : Row) → encodeRow .json row = rowToMembers row
  | [] => rfl
  | (k, v) :: row => by
    rw [encodeRow, rowToMembers, encode_json v, encodeRow_json row]

end

theorem itemChars_strings (style : Json.Style) (level : Nat) (xs : List String) :
    Json.itemChars style level (xs.map .string) = xs.map Json.stringText := by
  induction xs with
  | nil => rfl
  | cons x xs ih =>
    rw [List.map_cons, Json.itemChars, ih]
    rfl

mutual

theorem encode_text (style : Json.Style) (level : Nat) : (x : ParamValue) →
    x.encode (.text style) level = Json.chars style level x.toJson
  | .bool _ => rfl
  | .str _ => rfl
  | .list xs => by
    rw [encode, toJson, Json.chars, itemChars_strings]
    change style.enclose '[' ']' level ((xs.map _).map _) = _
    rw [List.map_map]
    rfl
  | .records rows => by
    rw [encode, toJson, Json.chars, ← encodeRows_text style (level + 1) rows]
    rfl

theorem encodeRows_text (style : Json.Style) (level : Nat) : (rows : List Row) →
    (encodeRows (.text style) rows).map (fun part => part level) =
      Json.itemChars style level (rowsToJson rows)
  | [] => rfl
  | row :: rows => by
    rw [encodeRows, rowsToJson, Json.itemChars, Json.chars, ← encodeRows_text style level rows,
      ← encodeRow_text style (level + 1) row]
    rfl

theorem encodeRow_text (style : Json.Style) (level : Nat) : (row : Row) →
    (encodeRow (.text style) row).map (fun (key, part) => style.memberText key (part level)) =
      Json.memberChars style level (rowToMembers row)
  | [] => rfl
  | (k, v) :: row => by
    rw [encodeRow, rowToMembers, Json.memberChars, ← encode_text style level v,
      ← encodeRow_text style level row]
    rfl

end

mutual

theorem numberless_toJson : (x : ParamValue) → x.toJson.Numberless
  | .bool _ => trivial
  | .str _ => trivial
  | .list xs => Json.numberless_strings xs
  | .records rows => numberless_rowsToJson rows

theorem numberless_rowsToJson : (rows : List Row) → Json.NumberlessItems (rowsToJson rows)
  | [] => trivial
  | row :: rows => ⟨numberless_rowToMembers row, numberless_rowsToJson rows⟩

theorem numberless_rowToMembers : (row : Row) → Json.NumberlessMembers (rowToMembers row)
  | [] => trivial
  | (_, v) :: row => ⟨numberless_toJson v, numberless_rowToMembers row⟩

end

/-! ### Empty lists of records -/

/-- An empty list of records is in the value, at any depth. -/
inductive HoldsEmpty : ParamValue → Prop where
  | here : HoldsEmpty (.records [])
  | within {rows : List Row} {row : Row} {e : String × ParamValue} (hrow : row ∈ rows)
    (he : e ∈ row) (h : HoldsEmpty e.2) : HoldsEmpty (.records rows)

mutual

/-- The value with empty lists of strings in place of empty lists of records, at any depth. -/
def settle : ParamValue → ParamValue
  | .bool b => .bool b
  | .str s => .str s
  | .list xs => .list xs
  | .records [] => .list []
  | .records (row :: rows) => .records (settleRow row :: settleRows rows)

def settleRows : List Row → List Row
  | [] => []
  | row :: rows => settleRow row :: settleRows rows

def settleRow : Row → Row
  | [] => []
  | (k, v) :: row => (k, v.settle) :: settleRow row

end

mutual

theorem settle_eq_self_iff : (x : ParamValue) → (x.settle = x ↔ ¬ x.HoldsEmpty)
  | .bool _ => iff_of_true rfl nofun
  | .str _ => iff_of_true rfl nofun
  | .list _ => iff_of_true rfl nofun
  | .records [] => iff_of_false nofun fun h => h .here
  | .records (row :: rows) => by
    have hrows := settleRows_eq_self_iff (row :: rows)
    rw [settleRows] at hrows
    rw [settle, records.injEq, hrows]
    constructor
    · intro h hempty
      cases hempty with
      | within hrow he hempty => exact h _ hrow _ he hempty
    · intro h row hrow e he hempty
      exact h (.within hrow he hempty)

theorem settleRows_eq_self_iff : (rows : List Row) →
    (settleRows rows = rows ↔ ∀ row ∈ rows, ∀ e ∈ row, ¬ e.2.HoldsEmpty)
  | [] => iff_of_true rfl nofun
  | row :: rows => by
    rw [settleRows, List.cons.injEq, settleRow_eq_self_iff row, settleRows_eq_self_iff rows,
      List.forall_mem_cons]

theorem settleRow_eq_self_iff : (row : Row) →
    (settleRow row = row ↔ ∀ e ∈ row, ¬ e.2.HoldsEmpty)
  | [] => iff_of_true rfl nofun
  | (k, v) :: row => by
    rw [settleRow, List.cons.injEq, Prod.mk.injEq, settle_eq_self_iff v,
      settleRow_eq_self_iff row, List.forall_mem_cons]
    simp

end

/-! ### Decoding -/

theorem strings?_object_cons (ms : List (String × Json)) (items : List Json) :
    strings? (.object ms :: items) = none := by
  rw [strings?, List.mapM_cons]
  rfl

mutual

theorem ofJson?_toJson : (x : ParamValue) → x.Canonical → ofJson? x.toJson = some x.settle
  | .bool _, _ => by rw [toJson, ofJson?, settle]
  | .str _, _ => by rw [toJson, ofJson?, settle]
  | .list xs, _ => by rw [toJson, ofJson?, strings?_eq_some_iff.2 rfl, settle]
  | .records [], _ => by
    rw [toJson, rowsToJson, ofJson?, settle]
    rfl
  | .records (row :: rows), h => by
    -- a first object keeps the array from being taken for one of strings
    rw [Canonical] at h
    have hrows := rowsOfJson?_rowsToJson (row :: rows) h
    rw [rowsToJson] at hrows
    rw [toJson, rowsToJson, ofJson?, strings?_object_cons, hrows, settle]
    rfl

theorem rowsOfJson?_rowsToJson : (rows : List Row) → CanonicalRows rows →
    rowsOfJson? (rowsToJson rows) = some (settleRows rows)
  | [], _ => by rw [rowsToJson, rowsOfJson?, settleRows]
  | row :: rows, h => by
    have hrow := rowOfMembers?_rowToMembers row h.1 h.2.1 (List.forall_mem_nil _)
    have hrows := rowsOfJson?_rowsToJson rows h.2.2
    rw [rowsToJson, rowsOfJson?, hrow, hrows, settleRows]
    rfl

/-- Members that come in ascending order, after all that came before, are added at the end. -/
theorem rowOfMembers?_rowToMembers : (row : Row) → Table.Ascending compare row →
    CanonicalRow row → {soFar : Row} → (∀ a ∈ soFar, ∀ e ∈ row, compare a.1 e.1 = .lt) →
      rowOfMembers? soFar (rowToMembers row) = some (soFar ++ settleRow row)
  | [], _, _, soFar, _ => by rw [rowToMembers, rowOfMembers?, settleRow, List.append_nil]
  | (k, v) :: row, ha, hc, soFar, hlt => by
    -- the first member goes to the end, and is then one of those that came before the others
    obtain ⟨hk, hascending⟩ := Table.ascending_cons.1 ha
    have hv := ofJson?_toJson v hc.1
    have hinsert : Table.insert compare k v.settle soFar = soFar ++ [(k, v.settle)] :=
      Table.insert_of_last fun a hmem => hlt a hmem (k, v) List.mem_cons_self
    have hnext : ∀ a ∈ soFar ++ [(k, v.settle)], ∀ e ∈ row, compare a.1 e.1 = .lt := by
      intro a hmem e he
      rcases List.mem_append.1 hmem with hmem | hmem
      · exact hlt a hmem e (List.mem_cons_of_mem _ he)
      · rw [List.mem_singleton.1 hmem]
        exact hk e he
    have hrow := rowOfMembers?_rowToMembers row hascending hc.2 hnext
    rw [rowToMembers, rowOfMembers?, hv, settleRow]
    change rowOfMembers? (Table.insert compare k v.settle soFar) (rowToMembers row) = _
    rw [hinsert, hrow, List.append_assoc]
    rfl

end

end ParamValue

namespace Params

variable {p : Params}

/-- The record of a mapping is made of its members in their order. -/
theorem rowOfMembers?_entries (p : Params) :
    ParamValue.rowOfMembers? [] (ParamValue.rowToMembers p.entries) =
      some (ParamValue.settleRow p.entries) :=
  ParamValue.rowOfMembers?_rowToMembers p.entries p.ascending p.canonical
    (List.forall_mem_nil _)

/-- The mapping with empty lists of strings in place of empty lists of records, at any depth. -/
def settled (p : Params) : Params where
  entries := ParamValue.settleRow p.entries
  ascending := (ParamValue.canonical_rowOfMembers? _ Table.ascending_nil
    (by simp [ParamValue.CanonicalRow]) p.rowOfMembers?_entries).1
  canonical := (ParamValue.canonical_rowOfMembers? _ Table.ascending_nil
    (by simp [ParamValue.CanonicalRow]) p.rowOfMembers?_entries).2

/-- An empty list of records is in the mapping, at any depth. -/
def HoldsEmpty (p : Params) : Prop := ∃ e ∈ p.entries, e.2.HoldsEmpty

theorem settled_eq_self_iff : p.settled = p ↔ ¬ p.HoldsEmpty := by
  have hentries : p.settled = p ↔ ParamValue.settleRow p.entries = p.entries := by
    constructor
    · intro h
      exact congrArg entries h
    · intro h
      exact ext h
  rw [hentries, ParamValue.settleRow_eq_self_iff, HoldsEmpty]
  constructor
  · rintro h ⟨e, he, hempty⟩
    exact h e he hempty
  · intro h e he hempty
    exact h ⟨e, he, hempty⟩

theorem ofJson?_toJson (p : Params) : ofJson? p.toJson = some p.settled :=
  ofJson?_eq_some_iff.2 ⟨_, rfl, p.rowOfMembers?_entries⟩

theorem encode_json (p : Params) : p.encode .json = p.toJson := by
  rw [encode, ParamValue.encodeRow_json]
  rfl

theorem print_eq (style : Json.Style) (p : Params) : p.print style = p.toJson.print style := by
  rw [print, Json.print, toJson, Json.chars, ← ParamValue.encodeRow_text]
  rfl

/-- A mapping is read back from its text with its empty lists of records settled, and the text is
that of its value. -/
theorem decode_print (p : Params) :
    (p.toJson.depth ≤ Json.depthLimit → ∀ style, decode (p.print style) = .ok p.settled ∧
      (decode (p.print style) = .ok p ↔ ¬ p.HoldsEmpty)) ∧
    p.encode .json = p.toJson ∧ ∀ style, p.print style = p.toJson.print style := by
  refine ⟨fun hdepth style => ?_, p.encode_json, fun style => p.print_eq style⟩
  have hparse : Json.parse (p.print style) = .ok p.toJson := by
    rw [print_eq]
    have hnumberless : p.toJson.Numberless := ParamValue.numberless_rowToMembers p.entries
    exact Json.parse_print hnumberless hdepth style
  have hdecode : decode (p.print style) = .ok p.settled :=
    decode_eq_ok_iff.2 ⟨p.toJson, hparse, p.ofJson?_toJson⟩
  refine ⟨hdecode, ?_⟩
  rw [hdecode, Except.ok.injEq]
  exact settled_eq_self_iff

/-- One record, with an empty list of records in it. -/
def hollow : Params where
  entries := [("rows", .records [[("none", .records [])]])]
  ascending := by simp
  canonical := by simp [ParamValue.CanonicalRow, ParamValue.Canonical, ParamValue.CanonicalRows]

theorem decode_print_hollow : hollow.toJson.depth ≤ Json.depthLimit ∧ hollow.HoldsEmpty ∧
    hollow.settled.entries = [("rows", .records [[("none", .list [])]])] ∧
    ∀ style, decode (hollow.print style) = .ok hollow.settled ∧
      decode (hollow.print style) ≠ .ok hollow := by
  have hdepth : hollow.toJson.depth ≤ Json.depthLimit := by decide
  have hempty : hollow.HoldsEmpty :=
    ⟨_, List.mem_singleton_self _,
      .within (List.mem_singleton_self _) (List.mem_singleton_self _) .here⟩
  refine ⟨hdepth, hempty, rfl, fun style => ?_⟩
  obtain ⟨hdecode, hiff⟩ := (decode_print hollow).1 hdepth style
  exact ⟨hdecode, fun h => hiff.1 h hempty⟩

end Params

end Scaffold
