import Scaffold.Proofs.Tokens

/-!
The names that come with a request, and the file that a definition includes.

Each name is made of settings as they stand, whatever characters these hold. A definition includes
its header under a name in lower case, while the declaration is written under the name as it is
given. So it includes the declaration of its own component just if the name is in lower case.
-/
namespace Scaffold

variable {r : Request} {params : Params} {fs : List String} {file file' : String}

/-- The text that is written begins with the directive that includes a file. -/
def Includes (fs : List String) (file : String) : Prop :=
  fs.head? = some (CodeNames.definitionHead file)

/-- The text that is written is kept from being read twice by a guard. -/
def GuardedBy (fs : List String) (guard : String) : Prop :=
  fs.head? = some ("#ifndef " ++ guard ++ "\n#define " ++ guard ++ "\n\n")

/-- A directive includes one file. -/
theorem definitionHead_inj (h : CodeNames.definitionHead file = CodeNames.definitionHead file') :
    file = file' :=
  (String.append_right_inj _).1 ((String.append_left_inj _).1 h)

theorem includes_fragments_iff (d : Definition) : Includes d.fragments file ↔ file = d.header := by
  have hhead : d.fragments.head? = some (CodeNames.definitionHead d.header) := rfl
  rw [Includes, hhead]
  constructor
  · intro h
    exact (definitionHead_inj (Option.some.inj h)).symm
  · intro h
    rw [h]

namespace Request

/-- The header is the file of the declaration just if the name is in lower case. -/
theorem path_eq_headerName_iff (h : r.Accepted params) :
    r.path .declaration = r.headerName ↔ ∀ c ∈ r.name.toList, c.isUpper = false := by
  have hascii : ∀ c ∈ r.name.toList, Text.isAscii c = true :=
    fun c hc => decide_eq_true (h.proper.name.ascii c hc)
  have hname : r.path .declaration = r.headerName ↔ r.name = Text.lower r.name :=
    (String.append_left_inj r.declarationExt).trans (String.append_left_inj "_backend.")
  rw [hname, eq_comm]
  exact Text.lower_eq_self_iff hascii

end Request

/-- The settings of a request that breaks no rule go into its names as they are: into the paths of
both artifacts, the guard of the declaration and the header of the definition. The header is the one
file that the definition includes, and it is the declaration's own just if the name has no letter in
upper case. -/
theorem inserts_settings (h : r.Accepted params) :
    let declaration := r.name ++ "_backend." ++ r.declarationExt
    let definition := r.name ++ "_backend." ++ r.definitionExt
    let guard := "__" ++ Text.upper r.name ++ "_BACKEND_H__"
    let header := Text.lower r.name ++ "_backend." ++ r.declarationExt
    ∃ declared defined fs gs,
      Job.ofParams params = .ok ⟨r, [⟨.declaration, declaration, .declaration, declared⟩,
        ⟨.definition, definition, .definition, defined⟩]⟩ ∧
      declared.str "guard" = .ok guard ∧ defined.str "header" = .ok header ∧
      Body.declaration.fragments declared = .ok fs ∧ Body.definition.fragments defined = .ok gs ∧
      GuardedBy fs guard ∧ (∀ file, Includes gs file ↔ file = header) ∧
      (Includes gs declaration ↔ ∀ c ∈ r.name.toList, c.isUpper = false) := by
  intro declaration definition guard header
  have hincludes (file : String) : Includes (r.fragments .definition) file ↔ file = header :=
    includes_fragments_iff r.definition
  refine ⟨r.derived .declaration, r.derived .definition, r.fragments .declaration,
    r.fragments .definition, Job.ofParams_accepted h, rfl, rfl, r.fragments_derived .declaration,
    r.fragments_derived .definition, rfl, hincludes, ?_⟩
  rw [hincludes]
  exact Request.path_eq_headerName_iff h

/-- A name that looks like a tag of a template, with a quote in it and one letter in upper case. -/
theorem inserts_settings_tag :
    let name := "\x7b\x7bName\x7d\x7d&\""
    let r : Request := ⟨name, true, ["Plus"], "h", "c"⟩
    r.Accepted r.asParams ∧ ∃ declared defined gs,
      Job.ofParams r.asParams = .ok ⟨r, [
        ⟨.declaration, name ++ "_backend.h", .declaration, declared⟩,
        ⟨.definition, name ++ "_backend.c", .definition, defined⟩]⟩ ∧
      Body.definition.fragments defined = .ok gs ∧
      Includes gs "\x7b\x7bname\x7d\x7d&\"_backend.h" ∧ ¬ Includes gs (name ++ "_backend.h") := by
  intro name r
  have hv : (⟨"\x7b\x7bName\x7d\x7d&\"", true, ["Plus"], "h", "c"⟩ : Request).validate = .ok () :=
    rfl
  have h : r.Accepted r.asParams := Request.accepted_asParams hv
  obtain ⟨declared, defined, fs, gs, hjob, -, -, -, hgs, -, hincludes, hown⟩ := inserts_settings h
  refine ⟨h, declared, defined, gs, hjob, hgs, (hincludes _).2 (by decide), ?_⟩
  intro hname
  have hupper : 'N'.isUpper = false := hown.1 hname 'N' (by decide)
  contradiction

end Scaffold
