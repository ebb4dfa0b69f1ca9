import Scaffold.Params.Json

/-!
Reading parameters from a JSON text.

The members of the outermost object are taken one by one. One that is no parameter ends the
reading at once, before anything after it is looked at. What is read is in canonical order, so it
makes up a mapping.
-/
namespace Scaffold

namespace ParamValue

mutual

theorem canonical_ofJson? : (j : Json) → {v : ParamValue} → ofJson? j = some v → v.Canonical
  | .bool _, _, h => by
    rw [ofJson?] at h
    cases h
    simp
  | .string _, _, h => by
    rw [ofJson?] at h
    cases h
    simp
  | .array items, _, h => by
    rw [ofJson?] at h
    split at h
    · cases h
      simp
    · obtain ⟨rows, hr, rfl⟩ := Option.map_eq_some_iff.1 h
      rw [Canonical]
      exact canonicalRows_rowsOfJson? items hr
  | .null, _, h => by simp [ofJson?] at h
  | .number _, _, h => by simp [ofJson?] at h
  | .object _, _, h => by simp [ofJson?] at h

theorem canonicalRows_rowsOfJson? :
    (items : List Json) → {rows : List Row} → rowsOfJson? items = some rows → CanonicalRows rows
  | [], _, h => by
    rw [rowsOfJson?] at h
    cases h
    simp [CanonicalRows]
  | .object members :: rest, _, h => by
    rw [rowsOfJson?] at h
    obtain ⟨row, hrow, h⟩ := Option.bind_eq_some_iff.1 h
    obtain ⟨rows, hrows, h⟩ := Option.bind_eq_some_iff.1 h
    cases h
    have hr := canonical_rowOfMembers? members Table.ascending_nil (by simp [CanonicalRow]) hrow
    exact ⟨hr.1, hr.2, canonicalRows_rowsOfJson? rest hrows⟩
  | .null :: _, _, h => by simp [rowsOfJson?] at h
  | .bool _ :: _, _, h => by simp [rowsOfJson?] at h
  | .number _ :: _, _, h => by simp [rowsOfJson?] at h
  | .string _ :: _, _, h => by simp [rowsOfJson?] at h
  | .array _ :: _, _, h => by simp [rowsOfJson?] at h

theorem canonical_rowOfMembers? :
    (members : List (String × Json)) → {row result : Row} → Table.Ascending compare row →
      CanonicalRow row → rowOfMembers? row members = some result →
      Table.Ascending compare result ∧ CanonicalRow result
  | [], _, _, ha, hc, h => by
    rw [rowOfMembers?] at h
    cases h
    exact ⟨ha, hc⟩
  | (k, v) :: rest, _, _, ha, hc, h => by
    rw [rowOfMembers?] at h
    obtain ⟨x, hx, h⟩ := Option.bind_eq_some_iff.1 h
    have hv := canonical_ofJson? v hx
    exact canonical_rowOfMembers? rest (Table.ascending_insert k x ha)
      (canonicalRow_insert hv hc) h

end

end ParamValue

namespace Params

/-- Sets a parameter to what a JSON value stands for. -/
def insertJson? (p : Params) (key : String) (v : Json) : Option Params :=
  match h : ParamValue.ofJson? v with
  | some x => some (p.insert key x (ParamValue.canonical_ofJson? v h))
  | none => none

/-- The mapping that a JSON value stands for. -/
def ofJson? : Json → Option Params
  | .object members => members.foldlM (fun p (k, v) => p.insertJson? k v) empty
  | _ => none

/-- One member of the outermost object. -/
def member (p : Params) (key : String) : Json.Reader Params := fun s => do
  let s ← Json.colon s
  let (v, s) ← Json.value (Json.depthLimit - 1) s
  match p.insertJson? key v with
  | some q => .ok (q, s)
  | none => Json.stop (.noShape "ParamValue") (Json.afterClosing s)

def reader : Json.Reader Params := fun s => do
  match ← Json.lead s with
  | (.object, r) => Json.members member empty (r.drop 1)
  | (.array, r) => Json.stop (.wrongType .array .map) r
  | (.scalar v, r) => Json.stop (.wrongType (.ofJson v) .map) r

def decode (text : String) : Except Json.Located Params := Json.document reader text

end Params

end Scaffold
