import Scaffold.Config.Decode
import Scaffold.Proofs.Decoding
import Scaffold.Proofs.ReadBack

/-!
Configurations that are read from objects.

The readers of settings decode values, so an object is read as a configuration by setting its
fields one after the other. A configuration is read back from its own text, since a setting that is
left out there is one that is not set.
-/
namespace Scaffold

namespace Json

variable {α : Type} {s rest : List Char} {n : Nat}

theorem value_skipBlank (n : Nat) (s : List Char) : value n (skipBlank s) = value n s := by
  cases n <;> simp only [value, lead_skipBlank]

/-! ### Readers of settings -/

theorem wrongType_ne_ok {wanted : Wanted} {found : Lead} {r : List Char} {x : α} :
    wrongType wanted found r ≠ .ok x := by
  cases found <;> exact nofun

def strings? : Json → Option (List String)
  | .array vs => vs.mapM string?
  | _ => none

/-- Nothing for null, or what another value is converted to. -/
def optional? (convert : Json → Option α) : Json → Option (Option α)
  | .null => some none
  | v => (convert v).map some

theorem plain_of_bool? {v : Json} {b : Bool} (h : v.bool? = some b) : v.Plain := by
  cases v with
  | bool b => trivial
  | _ => cases h

theorem plain_of_string? {v : Json} {x : String} (h : v.string? = some x) : v.Plain := by
  cases v with
  | string s => trivial
  | _ => cases h

theorem decodes_readScalar (wanted : Wanted) {take : Json → Option α}
    (hplain : ∀ v x, take v = some x → v.Plain) (n : Nat) :
    Decodes (readScalar wanted take) (value n) take := by
  intro s x rest
  rw [readScalar, bind_eq_ok_iff]
  constructor
  · rintro ⟨⟨found, r⟩, hlead, h⟩
    cases found with
    | scalar v =>
      simp only [] at h
      split at h
      · next y hy =>
        cases h
        exact ⟨v, (value_eq_scalar (Or.inr (hplain v x hy))).2 hlead, hy⟩
      · exact absurd h wrongType_ne_ok
    | array => exact absurd h wrongType_ne_ok
    | object => exact absurd h wrongType_ne_ok
  · rintro ⟨v, hv, hx⟩
    refine ⟨(.scalar v, rest), (value_eq_scalar (Or.inr (hplain v x hx))).1 hv, ?_⟩
    simp only [hx]

theorem decodes_readString (wanted : Wanted) (n : Nat) :
    Decodes (readString wanted) (value n) string? :=
  decodes_readScalar wanted (fun _ _ => plain_of_string?) n

theorem decodes_readBool (n : Nat) : Decodes readBool (value n) bool? :=
  decodes_readScalar .bool (fun _ _ => plain_of_bool?) n

theorem decodes_readStrings (n : Nat) : Decodes readStrings (value (n + 1)) strings? := by
  intro s xs rest
  have hitems := (decodes_readString .string n).items
  rw [readStrings, bind_eq_ok_iff]
  constructor
  · rintro ⟨⟨found, r⟩, hlead, h⟩
    cases found with
    | scalar v => exact absurd h wrongType_ne_ok
    | array =>
      obtain ⟨vs, hvs, hxs⟩ := (hitems _ _ _).1 h
      exact ⟨.array vs, value_eq_array.2 ⟨r, hlead, hvs⟩, hxs⟩
    | object => exact absurd h wrongType_ne_ok
  · rintro ⟨v, hv, hxs⟩
    cases v with
    | array vs =>
      obtain ⟨r, hlead, hvs⟩ := value_eq_array.1 hv
      exact ⟨(.array, r), hlead, (hitems _ _ _).2 ⟨vs, hvs, hxs⟩⟩
    | _ => cases hxs

theorem optional?_eq_some_iff {convert : Json → Option α} {v : Json} {y : Option α}
    (hnull : convert .null = none) :
    optional? convert v = some y ↔ v = .null ∧ y = none ∨ ∃ x, convert v = some x ∧ y = some x := by
  cases v with
  | null => simp [optional?, hnull, eq_comm]
  | _ => simp [optional?, eq_comm (b := y)]

/-- Only null begins like null. -/
theorem value_eq_null {v : Json} {r : List Char} (hs : skipBlank s = 'n' :: r) :
    value n s = .ok (v, rest) ↔ v = .null ∧ word ['u', 'l', 'l'] r = .ok rest := by
  have hlead : lead s = (word ['u', 'l', 'l'] r).map fun r => (.scalar .null, r) := by
    simp only [lead, hs]
  have hvalue : value n s = (word ['u', 'l', 'l'] r).map fun r => (.null, r) := by
    cases n <;> simp only [value, hlead] <;> cases word ['u', 'l', 'l'] r <;> rfl
  rw [hvalue, map_eq_ok_iff]
  constructor
  · rintro ⟨r', hword, heq⟩
    cases heq
    exact ⟨rfl, hword⟩
  · rintro ⟨rfl, hword⟩
    exact ⟨rest, hword, rfl⟩

theorem decodes_readOptional {read : Reader α} {convert : Json → Option α}
    (h : Decodes read (value n) convert) (hnull : convert .null = none) :
    Decodes (readOptional read) (value n) (optional? convert) := by
  intro s y rest
  simp only [optional?_eq_some_iff hnull]
  rw [readOptional]
  split
  · next r hs =>
    simp only [value_eq_null hs, map_eq_ok_iff]
    constructor
    · rintro ⟨r', hword, heq⟩
      cases heq
      exact ⟨.null, ⟨rfl, hword⟩, Or.inl ⟨rfl, rfl⟩⟩
    · rintro ⟨_, ⟨rfl, hword⟩, ⟨-, rfl⟩ | ⟨x, hx, -⟩⟩
      · exact ⟨rest, hword, rfl⟩
      · rw [hnull] at hx
        cases hx
  · next hne =>
    rw [map_eq_ok_iff]
    constructor
    · rintro ⟨⟨x, r⟩, hx, heq⟩
      cases heq
      obtain ⟨v, hv, hvx⟩ := (h _ _ _).1 hx
      rw [value_skipBlank] at hv
      exact ⟨v, hv, Or.inr ⟨x, hvx, rfl⟩⟩
    · rintro ⟨v, hv, ⟨rfl, -⟩ | ⟨x, hx, rfl⟩⟩
      · obtain ⟨r, hs, -⟩ := lead_null_iff.1 ((value_eq_scalar (Or.inl rfl)).1 hv)
        exact (hne r hs).elim
      · rw [← value_skipBlank] at hv
        exact ⟨(x, rest), (h _ _ _).2 ⟨v, hv, hx⟩, rfl⟩

end Json

namespace Config

open Json

variable {c : Config} {text : String} {ms : List (String × Json)}

/-! ### Fields -/

/-- A configuration with a field set to what a value says. -/
def Field.assign (c : Config) : Field → Json → Option Config
  | .name, v => (optional? string? v).map fun x => { c with name := x }
  | .astVisitor, v => (bool? v).map fun x => { c with astVisitor := x }
  | .outputDirectory, v => (optional? string? v).map fun x => { c with outputDirectory := x }
  | .nodes, v => (optional? strings? v).map fun x => { c with nodes := x }
  | .declarationExt, v => (string? v).map fun x => { c with declarationExt := x }
  | .definitionExt, v => (string? v).map fun x => { c with definitionExt := x }

theorem Field.decodes_read (c : Config) (field : Field) (n : Nat) :
    Decodes (field.read c) (value (n + 1)) (field.assign c) := by
  have hstring (wanted : Wanted) := decodes_readString wanted (n + 1)
  have hstrings := decodes_readStrings n
  cases field with
  | name => exact (decodes_readOptional (hstring .string) rfl).map fun x => { c with name := x }
  | astVisitor => exact (decodes_readBool (n + 1)).map fun x => { c with astVisitor := x }
  | outputDirectory =>
    exact (decodes_readOptional (hstring .path) rfl).map fun x => { c with outputDirectory := x }
  | nodes => exact (decodes_readOptional hstrings rfl).map fun x => { c with nodes := x }
  | declarationExt => exact (hstring .string).map fun x => { c with declarationExt := x }
  | definitionExt => exact (hstring .string).map fun x => { c with definitionExt := x }

/-- A draft with the field of a key set to what a value says, if it has not been given before. -/
def Draft.assign (d : Draft) (key : String) (v : Json) : Option Draft :=
  match Field.ofKey? key with
  | none => none
  | some field =>
    if d.given.contains field then none
    else (field.assign d.config v).map fun c => ⟨c, field :: d.given⟩

theorem decodes_member (d : Draft) (key : String) (n : Nat) :
    Decodes (member d key) (afterColon (value (n + 1))) (d.assign key) := by
  rcases hkey : Field.ofKey? key with _ | field
  · -- no field has this key
    have hassign : d.assign key = fun _ => none := by
      funext v
      rw [Draft.assign, hkey]
    rw [hassign]
    refine .of_fails fun s d' rest => ?_
    simp only [member, hkey]
    exact stop_ne_ok _ _ _
  · by_cases hgiven : d.given.contains field = true
    · -- the field has been given before, so what comes after the key is not even looked at
      have hassign : d.assign key = fun _ => none := by
        funext v
        rw [Draft.assign, hkey]
        exact if_pos hgiven
      rw [hassign]
      refine .of_fails fun s d' rest => ?_
      simp only [member, hkey, if_pos hgiven]
      exact stop_ne_ok _ _ _
    · -- the field is read, and counts as given from then on
      have hassign : d.assign key = fun v =>
          (field.assign d.config v).map fun c => ⟨c, field :: d.given⟩ := by
        funext v
        rw [Draft.assign, hkey]
        exact if_neg hgiven
      have hmember : member d key = fun s =>
          (afterColon (field.read d.config) s).map fun x => (⟨x.1, field :: d.given⟩, x.2) := by
        funext s
        simp only [member, hkey, if_neg hgiven, afterColon]
        cases colon s with
        | error fault => rfl
        | ok s' =>
          change (field.read d.config s' >>= _) = (field.read d.config s').map _
          cases field.read d.config s' <;> rfl
      rw [hassign, hmember]
      exact (field.decodes_read d.config n).afterColon.map fun c => Draft.mk c (field :: d.given)

/-- A text that begins like an object is decoded by decoding the object in it. -/
theorem decode_eq_ok_iff {r : List Char} (h : lead text.toList = .ok (.object, r)) :
    decode text = .ok c ↔ ∃ ms, parse text = .ok (.object ms) ∧
      ∃ d, foldMembers Draft.assign ⟨standard, []⟩ ms = some d ∧ d.config = c := by
  have hmembers := members_decodes (fun d key => decodes_member d key 125) ⟨standard, []⟩
  -- the form as an array is out of the question
  have hreader : reader text.toList =
      (members member ⟨standard, []⟩ (r.drop 1)).map fun x => (x.1.config, x.2) := by
    rw [reader, h]
    rfl
  rw [decode, document_eq_ok_iff]
  simp only [hreader, map_eq_ok_iff]
  constructor
  · rintro ⟨_, ⟨⟨d, rest⟩, hd, heq⟩, hrest⟩
    cases heq
    obtain ⟨ms, hms, hfold⟩ := (hmembers _ _ _).1 hd
    have hvalue : value depthLimit text.toList = .ok (.object ms, rest) :=
      value_eq_object.2 ⟨r, h, hms⟩
    exact ⟨ms, document_eq_ok_iff.2 ⟨rest, hvalue, hrest⟩, d, hfold, rfl⟩
  · rintro ⟨ms, hparse, d, hfold, rfl⟩
    obtain ⟨rest, hvalue, hrest⟩ := document_eq_ok_iff.1 hparse
    obtain ⟨r', hlead, hms⟩ := value_eq_object.1 hvalue
    cases h.symm.trans hlead
    exact ⟨rest, ⟨(d, rest), (hmembers _ _ _).2 ⟨ms, hms, hfold⟩, rfl⟩, hrest⟩

theorem lead_of_parse (h : parse text = .ok (.object ms)) :
    ∃ r, lead text.toList = .ok (.object, r) := by
  obtain ⟨rest, hvalue, -⟩ := document_eq_ok_iff.1 h
  obtain ⟨r, hlead, -⟩ := value_eq_object.1 hvalue
  exact ⟨r, hlead⟩

theorem decode_of_object (h : parse text = .ok (.object ms)) : decode text = .ok c ↔
    ∃ d, foldMembers Draft.assign ⟨standard, []⟩ ms = some d ∧ d.config = c := by
  obtain ⟨r, hlead⟩ := lead_of_parse h
  rw [decode_eq_ok_iff hlead]
  constructor
  · rintro ⟨ms', hparse, hd⟩
    cases h.symm.trans hparse
    exact hd
  · intro hd
    exact ⟨ms, h, hd⟩

/-! ### Texts -/

/-- Neither a number nor anything nested is in the value of a setting. -/
structure Shallow (v : Json) : Prop where
  numberless : v.Numberless
  depth : v.depth ≤ 1

theorem shallow_string (s : String) : Shallow (.string s) := ⟨trivial, by simp [Json.depth]⟩

theorem shallow_bool (b : Bool) : Shallow (.bool b) := ⟨trivial, by simp [Json.depth]⟩

def strings (xs : List String) : Json := .array (xs.map .string)

theorem shallow_strings (xs : List String) : Shallow (strings xs) :=
  ⟨numberless_strings xs, by simp [strings, Json.depth, itemsDepth_strings]⟩

theorem shallow_optional {α : Type} {write : α → Json} (h : ∀ x, Shallow (write x)) (key : String)
    (o : Option α) : ∀ m ∈ optional key write o, Shallow m.2 := by
  cases o with
  | none => exact List.forall_mem_nil _
  | some x => exact List.forall_mem_singleton.2 (h x)

/-- The members of a configuration, a setting that must be there taken for one that is not left
out. -/
def settings (c : Config) : List (String × Json) :=
  [optional Field.name.key .string c.name,
    optional Field.astVisitor.key .bool (some c.astVisitor),
    optional Field.outputDirectory.key .string c.outputDirectory,
    optional Field.nodes.key strings c.nodes,
    optional Field.declarationExt.key .string (some c.declarationExt),
    optional Field.definitionExt.key .string (some c.definitionExt)].flatten

theorem toJson_eq (c : Config) : c.toJson = .object c.settings := by
  rw [toJson, settings]
  simp only [List.flatten_cons, List.flatten_nil, List.append_nil, List.append_assoc]
  rfl

theorem shallow_settings (c : Config) : ∀ m ∈ c.settings, Shallow m.2 := by
  rw [settings, List.forall_mem_flatten]
  simp only [List.forall_mem_cons]
  exact ⟨shallow_optional shallow_string _ _, shallow_optional shallow_bool _ _,
    shallow_optional shallow_string _ _, shallow_optional shallow_strings _ _,
    shallow_optional shallow_string _ _, shallow_optional shallow_string _ _,
    List.forall_mem_nil _⟩

theorem strings?_strings (xs : List String) : strings? (strings xs) = some xs :=
  mapM_string?_eq_some_iff.2 rfl

theorem ofKey?_key (field : Field) : Field.ofKey? field.key = some field := by
  cases field <;> decide

theorem assign_key {d : Draft} {field : Field} {v : Json} (hnew : field ∉ d.given)
    (hassign : field.assign d.config v = some c) :
    d.assign field.key v = some ⟨c, field :: d.given⟩ := by
  have hcontains : ¬ d.given.contains field = true := by simpa using hnew
  rw [Draft.assign, ofKey?_key]
  simp only [if_neg hcontains, hassign, Option.map_some]

/-- A draft holds a configuration in which no fields but some have been given. -/
structure Draft.Holds (d : Draft) (c : Config) (fields : List Field) : Prop where
  config : d.config = c
  given : ∀ f ∈ d.given, f ∈ fields

/-- The member for a setting sets its field, and if it is left out nothing needs to be set. -/
theorem Draft.Holds.optional {α : Type} {d : Draft} {fields : List Field}
    (hd : d.Holds c fields) (field : Field) (write : α → Json) (hnew : field ∉ fields)
    (set : Option α → Config) (hunset : set none = c)
    (hset : ∀ x, field.assign c (write x) = some (set (some x))) (o : Option α) :
    ∃ d', (∀ ms, foldMembers Draft.assign d (optional field.key write o ++ ms) =
        foldMembers Draft.assign d' ms) ∧ d'.Holds (set o) (field :: fields) := by
  have hlater : ∀ f ∈ d.given, f ∈ field :: fields :=
    fun f hf => List.mem_cons_of_mem _ (hd.given f hf)
  cases o with
  | none => exact ⟨d, fun _ => rfl, hd.config.trans hunset.symm, hlater⟩
  | some x =>
    have hassign : field.assign d.config (write x) = some (set (some x)) := by
      rw [hd.config, hset]
    have hstep := assign_key (fun h => hnew (hd.given _ h)) hassign
    refine ⟨⟨set (some x), field :: d.given⟩, fun ms => ?_, rfl, ?_⟩
    · change (d.assign field.key (write x) >>= _) = _
      rw [hstep]
      rfl
    · exact List.forall_mem_cons.2 ⟨List.mem_cons_self, hlater⟩

/-- The members of a configuration set its fields one after the other. -/
theorem foldMembers_settings (c : Config) :
    ∃ d, foldMembers Draft.assign ⟨standard, []⟩ c.settings = some d ∧ d.config = c := by
  obtain ⟨name, astVisitor, outputDirectory, nodes, declarationExt, definitionExt⟩ := c
  have hnodes {c : Config} (x : List String) :
      Field.assign c .nodes (strings x) = some { c with nodes := some x } := by
    rw [Field.assign, optional?_eq_some_iff rfl |>.2 (Or.inr ⟨x, strings?_strings x, rfl⟩)]
    rfl
  have hstart : Draft.Holds ⟨standard, []⟩ standard [] := ⟨rfl, List.forall_mem_nil _⟩
  -- in each draft the settings still to come are those of the standard configuration
  obtain ⟨d₁, hfold₁, h₁⟩ := hstart.optional .name .string (by decide)
    (fun x => { standard with name := x }) rfl (fun _ => rfl) name
  obtain ⟨d₂, hfold₂, h₂⟩ := h₁.optional .astVisitor .bool (by decide)
    (fun x => ⟨name, x.getD false, none, none, _, _⟩) rfl (fun _ => rfl) (some astVisitor)
  obtain ⟨d₃, hfold₃, h₃⟩ := h₂.optional .outputDirectory .string (by decide)
    (fun x => ⟨name, astVisitor, x, none, _, _⟩) rfl (fun _ => rfl) outputDirectory
  obtain ⟨d₄, hfold₄, h₄⟩ := h₃.optional .nodes strings (by decide)
    (fun x => ⟨name, astVisitor, outputDirectory, x, _, _⟩) rfl hnodes nodes
  obtain ⟨d₅, hfold₅, h₅⟩ := h₄.optional .declarationExt .string (by decide)
    (fun x => ⟨name, astVisitor, outputDirectory, nodes, x.getD _, _⟩) rfl (fun _ => rfl)
    (some declarationExt)
  obtain ⟨d₆, hfold₆, h₆⟩ := h₅.optional .definitionExt .string (by decide)
    (fun x => ⟨name, astVisitor, outputDirectory, nodes, declarationExt, x.getD _⟩) rfl
    (fun _ => rfl) (some definitionExt)
  refine ⟨d₆, ?_, h₆.config⟩
  simp only [settings, List.flatten_cons, List.flatten_nil]
  rw [hfold₁, hfold₂, hfold₃, hfold₄, hfold₅, hfold₆]
  rfl

/-- A configuration is read back from its text, also if blanks come after it. -/
theorem decode_text (c : Config) {blanks : String} (hblanks : Blank blanks.toList) :
    decode (c.text ++ blanks) = .ok c := by
  have hnumberless : c.toJson.Numberless := by
    rw [toJson_eq]
    exact numberlessMembers_iff.2 fun m hm => (c.shallow_settings m hm).numberless
  have hdepth : c.toJson.depth ≤ depthLimit := by
    have hmembers : membersDepth c.settings ≤ 1 :=
      membersDepth_le_iff.2 fun m hm => (c.shallow_settings m hm).depth
    rw [toJson_eq, Json.depth, depthLimit]
    omega
  have hparse : parse (c.text ++ blanks) = .ok (.object c.settings) := by
    rw [← toJson_eq]
    exact parse_print_append hnumberless hdepth .pretty hblanks
  exact (decode_of_object hparse).2 c.foldMembers_settings

end Config

end Scaffold
