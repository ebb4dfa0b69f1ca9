import Scaffold.Proofs.Emission

/-!
The parameters that a generation and its bodies depend on.

What is read of a mapping is what it has under a few keys, whatever else it holds. So mappings that
agree on these keys lead to the same calls and the same result, and a mapping may be replaced by the
complete one of the request that it describes.
-/
namespace Scaffold

variable {m : Type → Type} {S T : Type} {q q' : Params}

namespace Params

/-- Two mappings have the same under some keys, or both lack it. -/
def Agree (keys : List String) (q q' : Params) : Prop := ∀ key ∈ keys, q.get? key = q'.get? key

namespace Agree

variable {keys : List String} {key : String}

theorem required (h : Agree keys q q') (hk : key ∈ keys) {α : Type} (expected : ParamKind)
    (take : ParamValue → Option α) :
    q.required key expected take = q'.required key expected take := by
  rw [Params.required, Params.required, h key hk]

theorem str (h : Agree keys q q') (hk : key ∈ keys) : q.str key = q'.str key :=
  h.required hk .string _

theorem bool (h : Agree keys q q') (hk : key ∈ keys) : q.bool key = q'.bool key :=
  h.required hk .boolean _

theorem list (h : Agree keys q q') (hk : key ∈ keys) : q.list key = q'.list key :=
  h.required hk .strings _

/-- A default takes the place of a parameter in both mappings or in neither. -/
theorem orElse (h : Agree keys q q') (hk : key ∈ keys) {α : Type} (default : α)
    {read : Params → String → Except Failure α} (hread : read q key = read q' key) :
    q.orElse key default read = q'.orElse key default read := by
  have hcontains : q.contains key = q'.contains key := congrArg Option.isSome (h key hk)
  rw [Params.orElse, Params.orElse, hcontains, hread]

/-- A parameter under another key makes no difference. -/
theorem insert {v : ParamValue} (hv : v.Canonical) (hk : key ∉ keys) (q : Params) :
    Agree keys (q.insert key v hv) q := by
  intro other hother
  have hne : compare other key ≠ .eq := by
    rw [Ne, Std.compare_eq_iff_eq]
    rintro rfl
    exact hk hother
  calc (q.insert key v hv).get? other
    _ = if compare other key = .eq then some v else q.get? other :=
      Table.find?_insert key other v q.entries
    _ = q.get? other := if_neg hne

end Agree

end Params

open Params (Agree)

/-- The keys that a body reads. -/
def Body.keys : Body → List String
  | .backend => inheritedKeys ++ ["declaration_ext", "definition_ext"]
  | .declaration => inheritedKeys ++ ["guard"]
  | .definition => inheritedKeys ++ ["header"]

theorem Request.ofParams_congr (h : Agree Body.backend.keys q q') :
    Request.ofParams q = Request.ofParams q' := by
  have hname : q.str "name" = q'.str "name" := h.str (by decide)
  have hvisitor : q.boolOr "ast_visitor" false = q'.boolOr "ast_visitor" false :=
    h.orElse (by decide) false (h.bool (by decide))
  have hnodes : q.orElse "nodes" builtinNodes Params.list =
      q'.orElse "nodes" builtinNodes Params.list :=
    h.orElse (by decide) builtinNodes (h.list (by decide))
  have hextension (key default : String) (hk : key ∈ Body.backend.keys) :
      q.orElse key default Params.str = q'.orElse key default Params.str :=
    h.orElse hk default (h.str hk)
  rw [Request.ofParams, Request.ofParams, hname, hvisitor, hnodes,
    hextension "declaration_ext" _ (by decide), hextension "definition_ext" _ (by decide)]

/-- What all bodies of artifacts read besides a key of their own. -/
theorem Params.Agree.inherited {keys : List String} (h : Agree (inheritedKeys ++ keys) q q') :
    q.str "name" = q'.str "name" ∧ q.bool "ast_visitor" = q'.bool "ast_visitor" ∧
      q.list "nodes" = q'.list "nodes" := by
  have hkey {key : String} (hk : key ∈ inheritedKeys) : key ∈ inheritedKeys ++ keys :=
    List.mem_append_left keys hk
  exact ⟨h.str (hkey (by decide)), h.bool (hkey (by decide)), h.list (hkey (by decide))⟩

theorem Declaration.ofParams_congr (h : Agree Body.declaration.keys q q') :
    Declaration.ofParams q = Declaration.ofParams q' := by
  obtain ⟨hname, hvisitor, hnodes⟩ := Params.Agree.inherited h
  have hguard : q.str "guard" = q'.str "guard" := h.str (by decide)
  rw [Declaration.ofParams, Declaration.ofParams, hname, hvisitor, hnodes, hguard]

theorem Definition.ofParams_congr (h : Agree Body.definition.keys q q') :
    Definition.ofParams q = Definition.ofParams q' := by
  obtain ⟨hname, hvisitor, hnodes⟩ := Params.Agree.inherited h
  have hheader : q.str "header" = q'.str "header" := h.str (by decide)
  rw [Definition.ofParams, Definition.ofParams, hname, hvisitor, hnodes, hheader]

/-- A generation depends on the request alone that a mapping describes. -/
theorem generate_congr [Monad m] (p : Provider m S)
    (h : Request.ofParams q = Request.ofParams q') : generate p q = generate p q' := by
  have hjob : Job.ofParams q = Job.ofParams q' := by rw [Job.ofParams, Job.ofParams, h]
  rw [generate, generate, hjob]

theorem Body.fragments_congr {body : Body} (h : Agree body.keys q q') :
    body.fragments q = body.fragments q' := by
  cases body with
  | backend => rfl
  | declaration =>
    exact congrArg (Except.map Declaration.fragments) (Declaration.ofParams_congr h)
  | definition => exact congrArg (Except.map Definition.fragments) (Definition.ofParams_congr h)

theorem Body.write_of_fragments_eq [Monad m] {body : Body} (k : Sink m T)
    (h : body.fragments q = body.fragments q') : body.write k q = body.write k q' := by
  funext t
  rw [Body.write, Body.write, h]

theorem Body.write_congr [Monad m] {body : Body} (k : Sink m T) (h : Agree body.keys q q') :
    body.write k q = body.write k q' :=
  Body.write_of_fragments_eq k (Body.fragments_congr h)

/-- Two mappings lead to the same calls on a provider and to the same report or failure. -/
structure SameGeneration [Monad m] (p : Provider m S) (q q' : Params) : Prop where
  result : generate p q = generate p q'
  calls : generate p.logged q = generate p.logged q'

/-- From two mappings a body appends the same to a sink, with the same result. -/
structure SameEmission [Monad m] (body : Body) (k : Sink m T) (q q' : Params) : Prop where
  result : body.write k q = body.write k q'
  calls : body.write k.logged q = body.write k.logged q'

theorem SameEmission.of_fragments [Monad m] {body : Body} (k : Sink m T)
    (h : body.fragments q = body.fragments q') : SameEmission body k q q' :=
  ⟨Body.write_of_fragments_eq k h, Body.write_of_fragments_eq k.logged h⟩

theorem SameGeneration.of_request [Monad m] (p : Provider m S)
    (h : Request.ofParams q = Request.ofParams q') : SameGeneration p q q' :=
  ⟨generate_congr p h, generate_congr p.logged h⟩

/-- A generation and the bodies of the artifacts depend on the parameters that they read, and on no
others. All settings of a valid request make a mapping that describes it, which may stand in for any
other one that does. -/
theorem reads_own_keys [Monad m] (p : Provider m S) (k : Sink m T) :
    (∀ q q', Agree Body.backend.keys q q' → SameGeneration p q q') ∧
    (∀ body q q', Agree body.keys q q' → SameEmission body k q q') ∧
    ∀ r : Request, r.validate = .ok () → ∃ params, r.toParams = .ok params ∧
      Request.ofParams params = .ok r ∧
      ∀ q, Request.ofParams q = .ok r → SameGeneration p q params := by
  -- with a log it is a generation or an emission all the same, so each congruence serves twice
  refine ⟨?_, ?_, ?_⟩
  · intro q q' h
    exact .of_request p (Request.ofParams_congr h)
  · intro body q q' h
    exact ⟨Body.write_congr k h, Body.write_congr k.logged h⟩
  · intro r hv
    have hparams : r.toParams = .ok r.asParams := by
      rw [Request.toParams, hv]
      rfl
    have hread := r.ofParams_asParams
    refine ⟨r.asParams, hparams, hread, ?_⟩
    intro q hq
    exact .of_request p (hq.trans hread.symm)

/-- Besides a name, a mapping has a guard of the wrong kind, which only the body of a declaration
would read. -/
theorem reads_own_keys_nameless :
    let p := ScriptedProvider.provider fun _ => .willing
    let k : Sink (StateM ScriptLog) BudgetSink := BudgetSink.sink
    let q := Params.empty.insert "name" (.str "a")
    let q' := q.insert "guard" (.bool true)
    let r := Request.named "a"
    Agree Body.backend.keys q' q ∧ SameGeneration p q' q ∧
      Agree Body.definition.keys q' q ∧ SameEmission .definition k q' q ∧
      r.validate = .ok () ∧ Request.ofParams q = .ok r ∧
      ∃ params, r.toParams = .ok params ∧ SameGeneration p q params := by
  intro p k q q' r
  obtain ⟨hgenerate, hwrite, hrequest⟩ := reads_own_keys p k
  have hbackend : Agree Body.backend.keys q' q := .insert (by simp) (by decide) q
  have hdefinition : Agree Body.definition.keys q' q := .insert (by simp) (by decide) q
  have hv : (Request.named "a").validate = .ok () := rfl
  have hread : Request.ofParams q = .ok r := rfl
  obtain ⟨params, hparams, -, hsame⟩ := hrequest r hv
  exact ⟨hbackend, hgenerate q' q hbackend, hdefinition, hwrite .definition q' q hdefinition, hv,
    hread, params, hparams, hsame q hread⟩

end Scaffold
