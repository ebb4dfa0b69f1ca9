import Scaffold.Proofs.Commands
import Scaffold.Proofs.Members

/-!
Settings in layers.

What is given on the command line stands over what the file says, and that over what is built in, in
each field by itself. A file to start from spells some of the built-in settings out, so it makes no
difference which of the two layers they are found in.
-/
namespace Scaffold

open FileTree (files)

variable {t t' : FileTree} {path : String}

/-- The settings that a generation is handed, field by field. -/
def Request.handed (r : Request) (dir : String) : Config.Field → Json
  | .name => .string r.name
  | .astVisitor => .bool r.astVisitor
  | .outputDirectory => .string dir
  | .nodes => Config.strings r.nodes
  | .declarationExt => .string r.declarationExt
  | .definitionExt => .string r.definitionExt

theorem Request.handed_inj {r r' : Request} {dir dir' : String}
    (h : ∀ field, r.handed dir field = r'.handed dir' field) : r = r' ∧ dir = dir' := by
  have hname : r.name = r'.name := Json.string.inj (h .name)
  have hvisitor : r.astVisitor = r'.astVisitor := Json.bool.inj (h .astVisitor)
  have hnodes : r.nodes = r'.nodes := Config.strings_injective (h .nodes)
  have hdecl : r.declarationExt = r'.declarationExt := Json.string.inj (h .declarationExt)
  have hdef : r.definitionExt = r'.definitionExt := Json.string.inj (h .definitionExt)
  refine ⟨?_, Json.string.inj (h .outputDirectory)⟩
  cases r
  cases r'
  simp_all

namespace Config

variable {c c' : Config}

/-- What holds in a field that is set nowhere; there is no name to fall back on. -/
def builtIn : Field → Option Json
  | .name => none
  | .astVisitor => some (.bool false)
  | .outputDirectory => some (.string ".")
  | .nodes => some (strings builtinNodes)
  | .declarationExt => some (.string "hpp")
  | .definitionExt => some (.string "cpp")

/-- What a configuration says, over what is built in. -/
def inForce (c : Config) (field : Field) : Option Json := (c.said field).or (builtIn field)

theorem inForce_name (c : Config) : c.inForce .name = c.said .name := Option.or_none

theorem inForce_outputDirectory (c : Config) :
    c.inForce .outputDirectory = some (.string c.outputDir) := by
  rw [inForce, outputDir, said]
  cases c.outputDirectory <;> rfl

theorem inForce_nodes (c : Config) :
    c.inForce .nodes = some (strings (c.nodes.getD builtinNodes)) := by
  rw [inForce, said]
  cases c.nodes <;> rfl

/-- A configuration without a name makes no request, and any other the one that is in force, unless
that is invalid. -/
theorem toRequest_inForce (c : Config) :
    (c.said .name = none ∧ c.toRequest = .error (.invalidParameter "name" .noName)) ∨
      ∃ r : Request, (∀ field, c.inForce field = some (r.handed c.outputDir field)) ∧
        c.toRequest = r.validate.map fun _ => r := by
  cases hname : c.name with
  | none =>
    left
    rw [toRequest, said, hname]
    exact ⟨rfl, rfl⟩
  | some name =>
    right
    let r : Request :=
      ⟨name, c.astVisitor, c.nodes.getD builtinNodes, c.declarationExt, c.definitionExt⟩
    refine ⟨r, fun field => ?_, ?_⟩
    · cases field with
      | name =>
        rw [inForce_name, said, hname]
        rfl
      | astVisitor => rfl
      | outputDirectory => exact c.inForce_outputDirectory
      | nodes => exact c.inForce_nodes
      | declarationExt => rfl
      | definitionExt => rfl
    · rw [toRequest, hname]
      change (r.validate >>= fun _ => .ok r) = r.validate.map fun _ => r
      cases r.validate <;> rfl

/-- Configurations with the same settings in force make the same request, or the same complaint, for
the same directory. -/
theorem toRequest_congr (h : ∀ field, c.inForce field = c'.inForce field) :
    c.outputDir = c'.outputDir ∧ c.toRequest = c'.toRequest := by
  have hdir : c.outputDir = c'.outputDir := by
    have hsome := h .outputDirectory
    rw [inForce_outputDirectory, inForce_outputDirectory] at hsome
    exact Json.string.inj (Option.some.inj hsome)
  have hname : c.said .name = c'.said .name := by
    rw [← inForce_name, ← inForce_name, h]
  refine ⟨hdir, ?_⟩
  rcases c.toRequest_inForce with ⟨hnone, hc⟩ | ⟨r, hr, hc⟩
  · rcases c'.toRequest_inForce with ⟨-, hc'⟩ | ⟨r', hr', -⟩
    · rw [hc, hc']
    · have hsome := hr' .name
      rw [inForce_name, ← hname, hnone] at hsome
      cases hsome
  · rcases c'.toRequest_inForce with ⟨hnone', -⟩ | ⟨r', hr', hc'⟩
    · have hsome := hr .name
      rw [inForce_name, hname, hnone'] at hsome
      cases hsome
    · have hhanded (field : Field) : r.handed c.outputDir field = r'.handed c'.outputDir field :=
        Option.some.inj ((hr field).symm.trans ((h field).trans (hr' field)))
      rw [hc, hc', (Request.handed_inj hhanded).1]

/-- The members of a file stand over what is built in, and a member that is null does not count. -/
theorem Settles.inForce_eq {ms : List (String × Json)} (h : Settles Field.default ms c)
    (field : Field) :
    c.inForce field = ((ms.lookup field.key).bind Json.nonNull?).or (builtIn field) := by
  rw [inForce]
  cases hlookup : ms.lookup field.key with
  | some v =>
    have hmem : (field.key, v) ∈ ms := by
      obtain ⟨before, after, hms, -⟩ := List.lookup_eq_some_iff.1 hlookup
      rw [hms]
      exact List.mem_append_right before List.mem_cons_self
    rw [h.given field v hmem]
    rfl
  | none =>
    have hmem : field.key ∉ ms.map Prod.fst := by
      rintro hmem
      obtain ⟨m, hm, hkey⟩ := List.mem_map.1 hmem
      simpa [hkey] using List.lookup_eq_none_iff.1 hlookup m hm
    rw [h.kept field hmem]
    -- the defaults of a file are built in as well
    cases field <;> rfl

/-- What is spelled out in a file to start from is what is built in. -/
theorem inForce_starter (field : Field) : starter.inForce field = standard.inForce field := by
  cases field <;> rfl

end Config

/-! ### Files to start from -/

namespace FileTree

/-- A path where no file can be opened for writing cannot be opened at all, or is a full device. -/
theorem createEmpty_cases (t : FileTree) (path : String) :
    t.Writable path ∨ (∃ fault, t.createEmpty path = (.error fault, t)) ∨
      t.createEmpty path = (.ok .fullDevice, t) := by
  rcases hr : t.target true path with fault | landing
  · right; left
    rw [createEmpty, hr]
    exact ⟨fault, rfl⟩
  · cases landing with
    | free location => exact Or.inl ⟨location, createEmpty_eq_file_iff.2 ⟨_, hr, .free⟩⟩
    | taken location e =>
      cases e with
      | file bytes => exact Or.inl ⟨location, createEmpty_eq_file_iff.2 ⟨_, hr, .file bytes⟩⟩
      | directory =>
        right; left
        rw [createEmpty, hr]
        exact ⟨.isDirectory, rfl⟩
      | link target =>
        right; left
        rw [createEmpty, hr]
        exact ⟨.tooManyLinks, rfl⟩
      | fullDevice =>
        right; right
        rw [createEmpty, hr]

theorem exists_writeText_error {text : String} (htext : text ≠ "") (h : ¬ t.Writable path) :
    ∃ fault, Yields (fun _ => files.writeText path text) t (.error fault) t := by
  rcases t.createEmpty_cases path with hfile | ⟨fault, hcreate⟩ | hcreate
  · exact absurd hfile h
  · have hrefused : Yields (fun _ => files.createEmpty path) t (.error fault) t :=
      fun _ s => congrArg (·, s) hcreate
    exact ⟨fault, hrefused.bind fun _ _ => rfl⟩
  · have hdevice : Yields (fun _ => files.createEmpty path) t (.ok .fullDevice) t :=
      fun _ s => congrArg (·, s) hcreate
    exact ⟨.noSpace, hdevice.bind ((t.yields_write_full htext).bind fun _ _ => rfl)⟩

theorem config_of_yields {found : Except Failure Config}
    (h : Yields (fun _ => Config.loadOrStandard files path) t found t) :
    t.config path = found := congrArg (fun x => x.1.1) (h Unit ())

end FileTree

/-- A configuration is saved wherever a file can be opened, and what has been saved is in force. -/
theorem Config.exists_save (c : Config) (path : String) (t : FileTree) :
    ∃ saved t', Yields (fun _ => save files c path) t saved t' ∧
      (saved = .ok () ↔ t.Writable path) ∧ (saved = .ok () → t'.config path = .ok c) := by
  by_cases hwritable : t.Writable path
  · obtain ⟨location, hfile⟩ := hwritable
    have hsave : Yields (fun _ => save files c path) t (.ok ())
        (t.put location (.file (c.text ++ "\n").toUTF8)) :=
      (FileTree.yields_writeText hfile _).bind fun _ _ => rfl
    have hdecode : decode (c.text ++ "\n") = .ok c := c.decode_text (by decide)
    have hload := yields_loadOrStandard_file
      (FileTree.status_put_file hfile (c.text ++ "\n").toUTF8).1
    rw [hdecode] at hload
    exact ⟨_, _, hsave, iff_of_true rfl ⟨location, hfile⟩,
      fun _ => FileTree.config_of_yields hload⟩
  · have htext : c.text ++ "\n" ≠ "" := by simp
    obtain ⟨fault, hwritten⟩ := FileTree.exists_writeText_error htext hwritable
    have hsave : Yields (fun _ => save files c path) t (.error (.io fault)) t :=
      hwritten.bind fun _ _ => rfl
    exact ⟨_, t, hsave, iff_of_false nofun hwritable, nofun⟩

namespace Cli

/-- What is given on the command line for a field, nothing if the field is left to the file. -/
def BackendArgs.given (a : BackendArgs) : Config.Field → Option Json
  | .name => a.name.map .string
  | .astVisitor => a.astVisitor.map .bool
  | .outputDirectory => a.dir.map .string
  | .nodes => if a.nodes = [] then none else some (Config.strings a.nodes)
  | .declarationExt | .definitionExt => none

theorem BackendArgs.said_override (a : BackendArgs) (c : Config) (field : Config.Field) :
    (a.override c).said field = (a.given field).or (c.said field) := by
  obtain ⟨name, astVisitor, dir, nodes, force, noClobber, dryRun⟩ := a
  cases field with
  | name => cases name <;> rfl
  | astVisitor => cases astVisitor <;> rfl
  | outputDirectory => cases dir <;> rfl
  | nodes => cases nodes <;> rfl
  | declarationExt => rfl
  | definitionExt => rfl

theorem BackendArgs.inForce_override (a : BackendArgs) (c : Config) (field : Config.Field) :
    (a.override c).inForce field = (a.given field).or (c.inForce field) := by
  rw [Config.inForce, Config.inForce, a.said_override, Option.or_assoc]

/-! ### Writing a file to start from -/

/-- The exit status tells whether the command failed, and what is printed changes no tree. -/
theorem does_run {args : List String} {verbosity : Nat} {command : Command}
    {result : Except Complaint Unit} (hp : parse args = .ok ⟨path, verbosity, command⟩)
    (h : Does (execute (treeSession verbosity) path command).run t result t') :
    ∃ status, Does (run treeHost args) t status t' ∧ (status = 0 ↔ result = .ok ()) := by
  unfold run
  rw [hp]
  cases result with
  | ok _ => exact ⟨0, h.bind fun printed => ⟨printed, rfl⟩, iff_of_true rfl rfl⟩
  | error complaint =>
    have hcomplaint : Does ((treeSession verbosity).err complaint.text) t' () t' :=
      quiet_err verbosity complaint.text t'
    exact ⟨1, h.bind (hcomplaint.bind fun printed => ⟨printed, rfl⟩),
      iff_of_false (by decide) nofun⟩

/-- A file to start from is written where there is nothing yet, and then it is in force. -/
theorem does_runConfig_write (verbosity : Nat) (path : String) (t : FileTree) :
    ∃ result t', Does (runConfig (treeSession verbosity) path true).run t result t' ∧
      (result = .ok () ↔ t.pathExists path = false ∧ t.Writable path) ∧
      (result = .ok () → t'.config path = .ok .starter) := by
  have hthere : Does ((treeSession verbosity).files.pathExists path) t (t.pathExists path) t :=
    Does.of_yields (Config.yields_pathExists path t)
  cases hexists : t.pathExists path with
  | true =>
    rw [hexists] at hthere
    exact ⟨.error (.alreadyThere path), t, hthere.lift.bind_ok fun printed => ⟨printed, rfl⟩,
      iff_of_false nofun nofun, nofun⟩
  | false =>
    rw [hexists] at hthere
    obtain ⟨saved, t', hsave, hwritable, hconfig⟩ := Config.starter.exists_save path t
    have hsaved : Does (Config.starter.save (treeSession verbosity).files path) t saved t' :=
      Does.of_yields hsave
    cases saved with
    | error failure =>
      refine ⟨.error (.failure failure), t', ?_, iff_of_false nofun ?_, nofun⟩
      · apply hthere.lift.bind_ok
        apply hsaved.lift.bind_ok
        exact (does_orFail_error rfl t').bind_error
      · rintro ⟨-, h⟩
        exact absurd (hwritable.2 h) nofun
    | ok _ =>
      refine ⟨.ok (), t', ?_, iff_of_true rfl ⟨rfl, hwritable.1 rfl⟩, fun _ => hconfig rfl⟩
      apply hthere.lift.bind_ok
      apply hsaved.lift.bind_ok
      apply (does_orFail_ok rfl t').bind_ok
      exact (quiet_out verbosity _ t').lift

/-- Configurations of which the same comes whatever is given over them. -/
def Alike (c c' : Config) : Prop :=
  ∀ a : BackendArgs, (a.override c).outputDir = (a.override c').outputDir ∧
    (a.override c).toRequest = (a.override c').toRequest

theorem alike_starter_standard : Alike .starter .standard := by
  intro a
  apply Config.toRequest_congr
  intro field
  rw [a.inForce_override, a.inForce_override, Config.inForce_starter]

/-- What is given on the command line stands over what is said in the configuration, that is by the
members of its file, and that over what is built in. The command that writes a file to start from
writes one where nothing is found and a file can be opened, and the same comes of all that can be
given over that file as over no file. -/
theorem given_over_said_over_builtIn :
    (∀ (a : BackendArgs) (c : Config),
      some (.string (a.override c).outputDir) = (a.given .outputDirectory).or
        ((c.said .outputDirectory).or (Config.builtIn .outputDirectory)) ∧
      (((a.given .name).or (c.said .name) = none ∧
          (a.override c).toRequest = .error (.invalidParameter "name" .noName)) ∨
        ∃ r : Request, (a.override c).toRequest = r.validate.map (fun _ => r) ∧
          r.declarationExt = c.declarationExt ∧ r.definitionExt = c.definitionExt ∧
          ∀ field, some (r.handed (a.override c).outputDir field) =
            (a.given field).or ((c.said field).or (Config.builtIn field)))) ∧
    (∀ (text : String) (ms : List (String × Json)) (c : Config),
      Json.parse text = .ok (.object ms) → Config.decode text = .ok c →
        ∀ field, (c.said field).or (Config.builtIn field) =
          ((ms.lookup field.key).bind Json.nonNull?).or (Config.builtIn field)) ∧
    ∀ (args : List String) (path : String) (verbosity : Nat),
      parse args = .ok ⟨path, verbosity, .config true⟩ →
        ∀ (t : FileTree) (printed : Transcript), ∃ status t' printed',
          ((run treeHost args).run t).run printed = ((status, t'), printed') ∧
          (status = 0 ↔ t.pathExists path = false ∧ t.Writable path) ∧
          (status = 0 → ∃ written, t'.config path = .ok written ∧
            ∀ (bare : FileTree) (elsewhere : String), bare.pathExists elsewhere = false →
              ∃ absent, bare.config elsewhere = .ok absent ∧ Alike written absent) := by
  refine ⟨fun a c => ?_, ?_, ?_⟩
  · have hdir := (a.override c).inForce_outputDirectory
    rw [a.inForce_override] at hdir
    refine ⟨hdir.symm, ?_⟩
    rcases (a.override c).toRequest_inForce with ⟨hname, hrefused⟩ | ⟨r, hhanded, hr⟩
    · left
      rw [a.said_override] at hname
      exact ⟨hname, hrefused⟩
    · right
      have hlayers (field : Config.Field) : some (r.handed (a.override c).outputDir field) =
          (a.given field).or ((c.said field).or (Config.builtIn field)) :=
        (hhanded field).symm.trans (a.inForce_override c field)
      refine ⟨r, hr, ?_, ?_, hlayers⟩
      · exact Json.string.inj (Option.some.inj (hlayers .declarationExt))
      · exact Json.string.inj (Option.some.inj (hlayers .definitionExt))
  · intro text ms c hparse hdecode
    have hsettles := ((Config.decode_eq_ok_iff_settles hparse).1 hdecode).2
    exact hsettles.inForce_eq
  · intro args path verbosity hp t printed
    obtain ⟨result, t', hdoes, hok, hstarter⟩ := does_runConfig_write verbosity path t
    obtain ⟨status, hrun, hstatus⟩ := does_run hp hdoes
    obtain ⟨printed', hrun⟩ := hrun printed
    refine ⟨status, t', printed', hrun, hstatus.trans hok, fun hzero => ?_⟩
    refine ⟨.starter, hstarter (hstatus.1 hzero), fun bare elsewhere habsent => ?_⟩
    have hstandard := FileTree.config_of_yields (Config.yields_loadOrStandard_absent habsent)
    exact ⟨.standard, hstandard, alike_starter_standard⟩

/-- A file to start from in an empty tree, and a name and a node to be given over it. -/
theorem given_over_said_over_builtIn_started :
    let args := ["config", "--write"]
    let path := defaultConfigPath
    let t : FileTree := ⟨[], []⟩
    let a : BackendArgs := ⟨some "a", none, none, ["B"], false, false, false⟩
    parse args = .ok ⟨path, 0, .config true⟩ ∧
      t.pathExists path = false ∧ t.Writable path ∧
      ∃ t' printed' written, ((run treeHost args).run t).run .empty = ((0, t'), printed') ∧
        t'.config path = .ok written ∧ t.config path = .ok .standard ∧ Alike written .standard ∧
        (a.override written).toRequest = .ok ⟨"a", false, ["B"], "hpp", "cpp"⟩ := by
  intro args path t a
  have hp : parse args = .ok ⟨path, 0, .config true⟩ := by
    let g := flagGrammar "tegel-config" "write"
    have hhead : rootGrammar.readHead .none args = .ok (.none, "config", ["--write"]) := by
      unfold Grammar.readHead
      rfl
    have hoptions : g.read ⟨.none, false⟩ ["--write"] = .ok ⟨.none, true⟩ :=
      calc g.read ⟨.none, false⟩ ["--write"]
        _ = g.read ⟨.none, true⟩ [] := g.read_option (by decide) rfl rfl
        _ = .ok ⟨.none, true⟩ := g.read_nil _
    have hcommand : readCommand "config" ["--write"] = .ok (.none, .config true) := by
      have hname : readCommand "config" ["--write"] = (do
          let s ← g.read ⟨.none, false⟩ ["--write"]
          .ok (s.common, .config s.own)) := rfl
      rw [hname, hoptions]
      rfl
    rw [parse, hhead]
    change (readCommand "config" ["--write"] >>= _) = _
    rw [hcommand]
    rfl
  have hsought (makesFile : Bool) : FileTree.Sought ⟨true, makesFile⟩ path [] :=
    ⟨by decide, by decide, by decide, by cases makesFile <;> simp⟩
  have horigin : FileTree.origin t.workingDirectory path = [] := by decide
  have hsteps : FileTree.steps path = [path] := by decide
  have hfollows (makesFile : Bool) : t.Follows ⟨true, makesFile⟩ FileTree.mostLinks
      (FileTree.origin t.workingDirectory path) (FileTree.steps path) (.free [path]) := by
    rw [horigin, hsteps]
    exact .free (hsought makesFile) rfl
  have hcheck : FileTree.checkPath path = .ok () := by decide
  have habsent : t.pathExists path = false := by
    have hfree : t.resolve ⟨true, false⟩ path (FileTree.steps path) = .ok (.free [path]) :=
      FileTree.resolve_eq_ok_iff_follows.2 ⟨hcheck, hfollows false⟩
    rw [FileTree.pathExists, FileTree.status, hfree]
    rfl
  have hwritable : t.Writable path := by
    have htarget : t.target true path = .ok (.free [path]) :=
      FileTree.resolve_eq_ok_iff_follows.2 ⟨hcheck, hfollows true⟩
    exact ⟨_, FileTree.createEmpty_eq_file_iff.2 ⟨_, htarget, .free⟩⟩
  have hstandard : t.config path = .ok .standard :=
    FileTree.config_of_yields (Config.yields_loadOrStandard_absent habsent)
  obtain ⟨status, t', printed', hrun, hzero, hwritten⟩ :=
    given_over_said_over_builtIn.2.2 args path 0 hp t .empty
  have hstatus := hzero.2 ⟨habsent, hwritable⟩
  obtain ⟨written, hconfig, hneutral⟩ := hwritten hstatus
  obtain ⟨absent, hsame, halike⟩ := hneutral t path habsent
  rw [hstandard] at hsame
  cases hsame
  rw [hstatus] at hrun
  have hoverride : a.override .standard = ⟨some "a", false, none, some ["B"], "hpp", "cpp"⟩ := rfl
  have hrequest : (a.override .standard).toRequest = .ok ⟨"a", false, ["B"], "hpp", "cpp"⟩ := by
    rw [hoverride]
    rfl
  exact ⟨hp, habsent, hwritable, t', printed', written, hrun, hconfig, hstandard, halike,
    (halike a).2.trans hrequest⟩

end Cli

end Scaffold
