import Scaffold.Proofs.Saving

/-!
Configurations by what is said in each field.

A member of an object says something in one field and nothing in the others. So what an object is
decoded to can be told from its members one by one, and their order makes no difference as long as
no name comes again.
-/
namespace Scaffold

namespace Json

variable {α : Type}

/-- A value, but nothing for null. -/
def nonNull? : Json → Option Json
  | .null => none
  | v => some v

/-- A value is converted to what would be written like it, null being as good as nothing. -/
def Inverts (convert : Json → Option α) (write : α → Option Json) : Prop :=
  ∀ v x, convert v = some x ↔ write x = v.nonNull?

theorem inverts_string : Inverts string? fun s => some (.string s) := by
  intro v s
  cases v <;> simp [string?, nonNull?, eq_comm]

theorem inverts_bool : Inverts bool? fun b => some (.bool b) := by
  intro v b
  cases v <;> simp [bool?, nonNull?, eq_comm]

theorem inverts_strings : Inverts strings? fun xs => some (Config.strings xs) := by
  intro v xs
  cases v with
  | array vs => simp [strings?, nonNull?, Config.strings, mapM_string?_eq_some_iff, eq_comm]
  | _ => simp [strings?, nonNull?, Config.strings]

/-- A setting that need not be set is null or written like one that must be. -/
theorem Inverts.optional {convert : Json → Option α} {write : α → Json}
    (h : Inverts convert fun x => some (write x)) :
    Inverts (optional? convert) fun o => o.map write := by
  intro v o
  have hnull : convert .null = none := by
    rw [Option.eq_none_iff_forall_ne_some]
    intro x hx
    cases (h _ _).1 hx
  rw [optional?_eq_some_iff hnull]
  cases v with
  | null => simp [hnull, nonNull?]
  | _ => cases o <;> simp [h _ _, nonNull?]

end Json

namespace Config

open Json
open FileTree (files)

variable {c c' : Config} {v : Json} {ms ms' : List (String × Json)}

/-! ### Fields -/

/-- What a configuration says in a field, nothing if it is not set. -/
def said (c : Config) : Field → Option Json
  | .name => c.name.map .string
  | .astVisitor => some (.bool c.astVisitor)
  | .outputDirectory => c.outputDirectory.map .string
  | .nodes => c.nodes.map strings
  | .declarationExt => some (.string c.declarationExt)
  | .definitionExt => some (.string c.definitionExt)

/-- The values that a member for a field may have. -/
def Field.Takes : Field → Json → Prop
  | .name, v | .outputDirectory, v => v = .null ∨ ∃ s, v = .string s
  | .astVisitor, v => ∃ b, v = .bool b
  | .nodes, v => v = .null ∨ ∃ xs : List String, v = .array (xs.map .string)
  | .declarationExt, v | .definitionExt, v => ∃ s, v = .string s

/-- What holds in a field that no member is for. -/
def Field.default : Field → Option Json
  | .name | .outputDirectory | .nodes => none
  | .astVisitor => some (.bool false)
  | .declarationExt => some (.string "hpp")
  | .definitionExt => some (.string "cpp")

theorem said_standard (field : Field) : standard.said field = field.default := by
  cases field <;> rfl

theorem strings_injective : Function.Injective strings := by
  intro xs ys h
  have hsome := congrArg strings? h
  rwa [strings?_strings, strings?_strings, Option.some.injEq] at hsome

theorem string_injective : Function.Injective Json.string := fun _ _ h => Json.string.inj h

/-- Configurations that say the same in every field are equal. -/
theorem ext_said (h : ∀ field, c.said field = c'.said field) : c = c' := by
  have hname : c.name = c'.name := Option.map_injective string_injective (h .name)
  have hvisitor : c.astVisitor = c'.astVisitor := by simpa [said] using h .astVisitor
  have hdir : c.outputDirectory = c'.outputDirectory :=
    Option.map_injective string_injective (h .outputDirectory)
  have hnodes : c.nodes = c'.nodes := Option.map_injective strings_injective (h .nodes)
  have hdecl : c.declarationExt = c'.declarationExt := by simpa [said] using h .declarationExt
  have hdef : c.definitionExt = c'.definitionExt := by simpa [said] using h .definitionExt
  cases c
  cases c'
  simp_all

theorem map_set_eq_some_iff {α : Type} {convert : Json → Option α} {write : α → Option Json}
    {field : Field} (hinverts : Inverts convert write) (get : Config → α) (set : α → Config)
    (hget : ∀ c, c.said field = write (get c))
    (hset : ∀ x, (set x).said = Function.update c.said field (write x)) :
    (convert v).map set = some c' ↔
      c'.said field = v.nonNull? ∧ ∀ other ≠ field, c'.said other = c.said other := by
  rw [Option.map_eq_some_iff]
  constructor
  · rintro ⟨x, hx, rfl⟩
    rw [hset, Function.update_self]
    exact ⟨(hinverts v x).1 hx, fun other hne => Function.update_of_ne hne _ _⟩
  · rintro ⟨hfield, hkept⟩
    have hx : convert v = some (get c') := (hinverts _ _).2 ((hget c').symm.trans hfield)
    refine ⟨get c', hx, ext_said fun other => ?_⟩
    rw [hset, ← hget]
    by_cases hne : other = field
    · rw [hne, Function.update_self]
    · rw [Function.update_of_ne hne, hkept other hne]

/-- To assign a value to a field is to say it there, and what is said in the others stays. -/
theorem Field.assign_eq_some_iff {field : Field} : field.assign c v = some c' ↔
    c'.said field = v.nonNull? ∧ ∀ other ≠ field, c'.said other = c.said other := by
  have hstring := inverts_string
  have hstrings := inverts_strings
  -- all fields are alike, but for what they convert and where they put it
  cases field with
  | name =>
    exact map_set_eq_some_iff hstring.optional Config.name (fun x => { c with name := x })
      (fun _ => rfl) (fun _ => funext fun other => by cases other <;> rfl)
  | astVisitor =>
    exact map_set_eq_some_iff inverts_bool Config.astVisitor (fun x => { c with astVisitor := x })
      (fun _ => rfl) (fun _ => funext fun other => by cases other <;> rfl)
  | outputDirectory =>
    exact map_set_eq_some_iff hstring.optional Config.outputDirectory
      (fun x => { c with outputDirectory := x })
      (fun _ => rfl) (fun _ => funext fun other => by cases other <;> rfl)
  | nodes =>
    exact map_set_eq_some_iff hstrings.optional Config.nodes (fun x => { c with nodes := x })
      (fun _ => rfl) (fun _ => funext fun other => by cases other <;> rfl)
  | declarationExt =>
    exact map_set_eq_some_iff hstring Config.declarationExt
      (fun x => { c with declarationExt := x })
      (fun _ => rfl) (fun _ => funext fun other => by cases other <;> rfl)
  | definitionExt =>
    exact map_set_eq_some_iff hstring Config.definitionExt (fun x => { c with definitionExt := x })
      (fun _ => rfl) (fun _ => funext fun other => by cases other <;> rfl)

theorem Field.key_injective : Function.Injective Field.key := by
  intro field other h
  have hof := congrArg ofKey? h
  rwa [ofKey?_key, ofKey?_key, Option.some.injEq] at hof

/-- A value can be assigned to a field just if the field takes it, whatever else is said. -/
theorem Field.exists_assign_iff (c : Config) {field : Field} :
    (∃ c', field.assign c v = some c') ↔ field.Takes v := by
  cases field <;> cases v <;>
    simp [assign, Takes, optional?, string?, bool?, strings?, mapM_string?_eq_some_iff]

/-! ### Members -/

/-- Each member is for a field, which takes its value, and no two are for the same one. -/
structure Admissible (ms : List (String × Json)) : Prop where
  known : ∀ m ∈ ms, ∃ field : Field, m.1 = field.key ∧ field.Takes m.2
  once : (ms.map Prod.fst).Nodup

/-- A configuration says what members say, null being as good as nothing, and in the fields that no
member is for it says what was said before. -/
structure Settles (before : Field → Option Json) (ms : List (String × Json)) (c : Config) :
    Prop where
  given : ∀ field v, (field.key, v) ∈ ms → c.said field = v.nonNull?
  kept : ∀ field, Field.key field ∉ ms.map Prod.fst → c.said field = before field

theorem Settles.unique {before : Field → Option Json} (h : Settles before ms c)
    (h' : Settles before ms c') : c = c' := by
  apply ext_said
  intro field
  by_cases hmem : field.key ∈ ms.map Prod.fst
  · obtain ⟨⟨_, v⟩, hv, rfl⟩ := List.mem_map.1 hmem
    rw [h.given field v hv, h'.given field v hv]
  · rw [h.kept field hmem, h'.kept field hmem]

theorem ofKey?_eq_some_iff {key : String} {field : Field} :
    Field.ofKey? key = some field ↔ field.key = key := by
  constructor
  · intro h
    simpa using List.find?_some h
  · rintro rfl
    exact ofKey?_key field

/-- A member is taken if it is for a field that has not been given before, and takes its value. -/
theorem Draft.assign_eq_some_iff {d d' : Draft} {key : String} :
    d.assign key v = some d' ↔ ∃ field : Field, field.key = key ∧ field ∉ d.given ∧
      field.assign d.config v = some d'.config ∧ d'.given = field :: d.given := by
  rw [Draft.assign]
  constructor
  · intro h
    split at h
    · cases h
    · next field hkey =>
      split at h
      · cases h
      · next hnew =>
        obtain ⟨c, hc, rfl⟩ := Option.map_eq_some_iff.1 h
        exact ⟨field, ofKey?_eq_some_iff.1 hkey, by simpa using hnew, hc, rfl⟩
  · rintro ⟨field, rfl, hnew, hassign, hgiven⟩
    have hcontains : ¬ d.given.contains field = true := by simpa using hnew
    simp only [ofKey?_key, if_neg hcontains, hassign, Option.map_some, ← hgiven]

/-- Members make up a configuration if they are admissible and for fields not given before. -/
theorem exists_foldMembers_iff {d : Draft} :
    (∃ d', foldMembers Draft.assign d ms = some d') ↔
      Admissible ms ∧ ∀ field ∈ d.given, field.key ∉ ms.map Prod.fst := by
  -- a field that a member is for counts as given for all members that come after it
  induction ms generalizing d with
  | nil => exact iff_of_true ⟨d, rfl⟩ ⟨⟨List.forall_mem_nil _, List.nodup_nil⟩, by simp⟩
  | cons m ms ih =>
    obtain ⟨key, v⟩ := m
    constructor
    · rintro ⟨d', hfold⟩
      obtain ⟨d₁, hstep, hrest⟩ := foldMembers_cons_eq_some_iff.1 hfold
      obtain ⟨field, rfl, hnew, hassign, hgiven⟩ := Draft.assign_eq_some_iff.1 hstep
      obtain ⟨⟨hknown, honce⟩, hlater⟩ := ih.1 ⟨d', hrest⟩
      rw [hgiven] at hlater
      obtain ⟨hfield, hlater⟩ := List.forall_mem_cons.1 hlater
      have htakes : field.Takes v := (field.exists_assign_iff _).1 ⟨_, hassign⟩
      refine ⟨⟨List.forall_mem_cons.2 ⟨⟨field, rfl, htakes⟩, hknown⟩,
        List.nodup_cons.2 ⟨hfield, honce⟩⟩, fun other hother hmem => ?_⟩
      rcases List.mem_cons.1 hmem with hsame | hmem
      · exact hnew (Field.key_injective hsame ▸ hother)
      · exact hlater other hother hmem
    · rintro ⟨⟨hknown, honce⟩, hnew⟩
      obtain ⟨⟨field, hkey, htakes⟩, hknown⟩ := List.forall_mem_cons.1 hknown
      obtain ⟨hfield, honce⟩ := List.nodup_cons.1 honce
      obtain ⟨c₁, hassign⟩ := (field.exists_assign_iff d.config).2 htakes
      have hfresh : field ∉ d.given := fun hmem => hnew field hmem (hkey ▸ List.mem_cons_self)
      have hlater : ∀ other ∈ field :: d.given, other.key ∉ ms.map Prod.fst := by
        refine List.forall_mem_cons.2 ⟨hkey ▸ hfield, fun other hother hmem => ?_⟩
        exact hnew other hother (List.mem_cons_of_mem _ hmem)
      obtain ⟨d', hrest⟩ : ∃ d', foldMembers Draft.assign ⟨c₁, field :: d.given⟩ ms = some d' :=
        ih.2 ⟨⟨hknown, honce⟩, hlater⟩
      have hstep : d.assign key v = some ⟨c₁, field :: d.given⟩ :=
        Draft.assign_eq_some_iff.2 ⟨field, hkey.symm, hfresh, hassign, rfl⟩
      exact ⟨d', foldMembers_cons_eq_some_iff.2 ⟨_, hstep, hrest⟩⟩

/-- What members make up says what they say, and else what the draft has said. -/
theorem settles_of_foldMembers {d d' : Draft} (h : foldMembers Draft.assign d ms = some d') :
    Settles d.config.said ms d'.config := by
  induction ms generalizing d with
  | nil =>
    cases h
    exact ⟨by simp, fun _ _ => rfl⟩
  | cons m ms ih =>
    obtain ⟨key, v⟩ := m
    obtain ⟨d₁, hstep, hrest⟩ := foldMembers_cons_eq_some_iff.1 h
    obtain ⟨field, rfl, -, hassign, hgiven⟩ := Draft.assign_eq_some_iff.1 hstep
    obtain ⟨hsaid, hothers⟩ := Field.assign_eq_some_iff.1 hassign
    obtain ⟨hmembers, hkept⟩ := ih hrest
    -- the field of the first member is not set again
    have hfield : field.key ∉ ms.map Prod.fst :=
      (exists_foldMembers_iff.1 ⟨d', hrest⟩).2 field (hgiven ▸ List.mem_cons_self)
    constructor
    · intro other w hmem
      rcases List.mem_cons.1 hmem with hsame | hmem
      · obtain ⟨hkey, rfl⟩ := Prod.mk.inj hsame
        rw [Field.key_injective hkey, hkept field hfield, hsaid]
      · exact hmembers other w hmem
    · intro other hother
      obtain ⟨hne, hother⟩ := not_or.1 (List.mem_cons.not.1 hother)
      rw [hkept other hother, hothers other fun hsame => hne (hsame ▸ rfl)]

/-! ### Objects -/

theorem Admissible.exists_settles (h : Admissible ms) : ∃ c, Settles Field.default ms c ∧
    ∃ d, foldMembers Draft.assign ⟨standard, []⟩ ms = some d ∧ d.config = c := by
  have hdefault : standard.said = Field.default := funext said_standard
  obtain ⟨d, hfold⟩ : ∃ d, foldMembers Draft.assign ⟨standard, []⟩ ms = some d :=
    exists_foldMembers_iff.2 ⟨h, List.forall_mem_nil _⟩
  exact ⟨d.config, hdefault ▸ settles_of_foldMembers hfold, d, hfold, rfl⟩

/-- An object is decoded if its members are admissible, to the configuration that they settle. -/
theorem decode_eq_ok_iff_settles {text : String} (h : parse text = .ok (.object ms)) :
    decode text = .ok c ↔ Admissible ms ∧ Settles Field.default ms c := by
  rw [decode_of_object h]
  constructor
  · rintro ⟨d, hfold, rfl⟩
    have hadmissible := (exists_foldMembers_iff.1 ⟨d, hfold⟩).1
    obtain ⟨_, hsettles, d', hfold', rfl⟩ := hadmissible.exists_settles
    cases hfold.symm.trans hfold'
    exact ⟨hadmissible, hsettles⟩
  · rintro ⟨hadmissible, hsettles⟩
    obtain ⟨c', hsettles', d, hfold, rfl⟩ := hadmissible.exists_settles
    exact ⟨d, hfold, hsettles'.unique hsettles⟩

theorem Admissible.perm (h : Admissible ms) (hperm : ms.Perm ms') : Admissible ms' where
  known m hm := h.known m (hperm.mem_iff.2 hm)
  once := (hperm.map Prod.fst).nodup_iff.1 h.once

theorem Settles.perm {before : Field → Option Json} (h : Settles before ms c)
    (hperm : ms.Perm ms') : Settles before ms' c where
  given field v hv := h.given field v (hperm.mem_iff.2 hv)
  kept field hfield := h.kept field fun hmem => hfield ((hperm.map Prod.fst).mem_iff.1 hmem)

/-- A text that begins like an object is a configuration just if it holds an object in which each
name is that of a field with a value for it and none comes again. What the members say is in force,
and the default where there is none, in whatever order they come. Nothing said at all is the
configuration that is in force where there is no file. -/
theorem decodes_objects {text : String} {r : List Char}
    (h : lead text.toList = .ok (.object, r)) :
    ((∃ c, decode text = .ok c) ↔ ∃ ms, parse text = .ok (.object ms) ∧ Admissible ms) ∧
    (∀ ms, parse text = .ok (.object ms) → ∀ c, decode text = .ok c →
      Settles Field.default ms c) ∧
    (∀ ms text' ms', parse text = .ok (.object ms) → parse text' = .ok (.object ms') →
      ms.Perm ms' → ∀ c, decode text = .ok c ↔ decode text' = .ok c) ∧
    (parse text = .ok (.object []) → ∃ c, decode text = .ok c ∧ c.said = Field.default ∧
      ∀ (t : FileTree) (path : String), t.pathExists path = false →
        Yields (fun _ => loadOrStandard files path) t (.ok c) t) := by
  refine ⟨⟨?_, ?_⟩, ?_, ?_, ?_⟩
  · rintro ⟨c, hc⟩
    obtain ⟨ms, hparse, -⟩ := (decode_eq_ok_iff h).1 hc
    exact ⟨ms, hparse, ((decode_eq_ok_iff_settles hparse).1 hc).1⟩
  · rintro ⟨ms, hparse, hadmissible⟩
    obtain ⟨c, hsettles, -⟩ := hadmissible.exists_settles
    exact ⟨c, (decode_eq_ok_iff_settles hparse).2 ⟨hadmissible, hsettles⟩⟩
  · intro ms hparse c hc
    exact ((decode_eq_ok_iff_settles hparse).1 hc).2
  · intro ms text' ms' hparse hparse' hperm c
    rw [decode_eq_ok_iff_settles hparse, decode_eq_ok_iff_settles hparse']
    -- both conditions speak of the members and not of their places
    constructor
    · rintro ⟨hadmissible, hsettles⟩
      exact ⟨hadmissible.perm hperm, hsettles.perm hperm⟩
    · rintro ⟨hadmissible, hsettles⟩
      exact ⟨hadmissible.perm hperm.symm, hsettles.perm hperm.symm⟩
  · intro hparse
    have hempty : Admissible [] := ⟨List.forall_mem_nil _, List.nodup_nil⟩
    have hsettles : Settles Field.default [] standard :=
      ⟨by simp, fun field _ => said_standard field⟩
    refine ⟨standard, (decode_eq_ok_iff_settles hparse).2 ⟨hempty, hsettles⟩,
      funext said_standard, fun t path habsent => ?_⟩
    exact yields_loadOrStandard_absent habsent

/-- Three members in two orders and two styles, one of them null. -/
theorem decodes_objects_rearranged :
    let nodes : String × Json := ("nodes", .array [.string "B"])
    let name : String × Json := ("name", .null)
    let ext : String × Json := ("definition_ext", .string "c")
    let text := (Json.object [nodes, name, ext]).print .compact
    let text' := (Json.object [ext, nodes, name]).print .pretty
    let c : Config := ⟨none, false, none, some ["B"], "hpp", "c"⟩
    (∃ r, lead text.toList = .ok (.object, r)) ∧
      parse text = .ok (.object [nodes, name, ext]) ∧
      parse text' = .ok (.object [ext, nodes, name]) ∧
      decode text = .ok c ∧ decode text' = .ok c := by
  intro nodes name ext text text' c
  have hparse : parse text = .ok (.object [nodes, name, ext]) :=
    parse_print (by simp [nodes, name, ext, Numberless, NumberlessItems, NumberlessMembers])
      (by decide) .compact
  have hparse' : parse text' = .ok (.object [ext, nodes, name]) :=
    parse_print (by simp [nodes, name, ext, Numberless, NumberlessItems, NumberlessMembers])
      (by decide) .pretty
  obtain ⟨r, hlead⟩ := lead_of_parse hparse
  have hadmissible : Admissible [nodes, name, ext] := by
    refine ⟨?_, by decide⟩
    simp only [List.forall_mem_cons]
    exact ⟨⟨.nodes, rfl, Or.inr ⟨["B"], rfl⟩⟩, ⟨.name, rfl, Or.inl rfl⟩,
      ⟨.definitionExt, rfl, "c", rfl⟩, List.forall_mem_nil _⟩
  obtain ⟨hsucceeds, hsettles, hrearranged, -⟩ := decodes_objects hlead
  obtain ⟨c', hc'⟩ := hsucceeds.2 ⟨_, hparse, hadmissible⟩
  have hc : c' = c := by
    have hsettled := hsettles _ hparse c' hc'
    apply ext_said
    intro field
    cases field with
    | name => exact hsettled.given .name .null (by simp [name, Field.key])
    | astVisitor => exact hsettled.kept .astVisitor (by decide)
    | outputDirectory => exact hsettled.kept .outputDirectory (by decide)
    | nodes => exact hsettled.given .nodes _ (List.mem_cons_self)
    | declarationExt => exact hsettled.kept .declarationExt (by decide)
    | definitionExt => exact hsettled.given .definitionExt (.string "c") (by simp [ext, Field.key])
  subst hc
  have hperm : ([nodes, name] ++ [ext]).Perm ([ext] ++ [nodes, name]) := List.perm_append_comm
  exact ⟨⟨r, hlead⟩, hparse, hparse', hc', (hrearranged _ _ _ hparse hparse' hperm c).1 hc'⟩

end Config

end Scaffold
