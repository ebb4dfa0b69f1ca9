import Scaffold.Cli.Arguments
import Scaffold.Cli.Console
import Scaffold.Config.File
import Scaffold.Digest.Sha256
import Scaffold.Files.Sink
import Scaffold.Sink.Memory

/-!
The commands, and the whole program from its arguments to its exit status.

The configuration and the request are settled before a file or a directory is made.
-/
namespace Scaffold.Cli

variable {m : Type → Type} {H : Type}

namespace BackendArgs

/-- Lays the settings that were given over those of a configuration. -/
def override (a : BackendArgs) (c : Config) : Config :=
  { c with
    name := a.name <|> c.name
    astVisitor := a.astVisitor.getD c.astVisitor
    outputDirectory := a.dir <|> c.outputDirectory
    nodes := if a.nodes.isEmpty then c.nodes else some a.nodes }

/-- Nobody is there to be asked, so what exists is kept unless it is to be replaced. -/
def policy (a : BackendArgs) : OverwritePolicy := if a.force then .always else .never

end BackendArgs

/-- Stops a command on a failure. -/
def orFail [Monad m] {α : Type} : Except Failure α → ExceptT Complaint m α
  | .ok x => pure x
  | .error f => throw (.failure f)

/-- The configuration in force: that of the file, or the standard one if there is none. -/
def findConfig [Monad m] (s : Session m H) (path : String) : ExceptT Complaint m Config := do
  match ← (Config.loadIfThere s.files path : m _) with
  | some result => orFail result
  | none =>
    s.tell (.configAbsent path)
    pure .standard

/-- Fails if nothing was written, and warns if not everything was. -/
def conclude [Monad m] (s : Session m H) (r : Report) : ExceptT Complaint m Unit := do
  if r.isTotalFailure then throw .nothingGenerated
  else if r.isPartial then
    s.out (warning ("partial success: " ++ toString r.written.length ++ " of "
      ++ toString r.outcomes.length ++ " artifacts written"))

/-- What becomes of one artifact in the output directory. -/
def printOutcome [Monad m] (s : Session m H) (dir : String) (o : Outcome) : m Unit := do
  let path := Path.join dir o.path
  match o.status with
  | .written bytes =>
    s.out (success (path ++ " (" ++ o.kind.text ++ ")"))
    s.out (setting "Size" (toString bytes ++ " bytes"))
    match ← s.files.readFile path with
    | .ok contents => s.out (setting "SHA-256" (Digest.sha256 contents))
    | .error fault => s.out (warning ("reading back " ++ path ++ ": " ++ fault.message))
  | .skipped => s.out (skipped (path ++ " already exists"))
  | .failed reason => s.out (failed ("Can't create " ++ path ++ ": " ++ reason))

def printOutcomes [Monad m] (s : Session m H) (dir : String) : List Outcome → m Unit
  | [] => pure ()
  | o :: os => do
    printOutcome s dir o
    printOutcomes s dir os

/-- The artifacts of a run in memory, each under a heading. -/
def artifactText (store : MemoryStore) (o : Outcome) : String :=
  match store.get? o.path with
  | some contents => heading (o.path ++ " (" ++ o.kind.text ++ ")") ++ contents
  | none => ""

/-- Generates into memory and prints the artifacts. -/
def dryRun [Monad m] (s : Session m H) (job : Job) : ExceptT Complaint m Unit := do
  let (attempts, store) := (job.run MemoryStore.provider).run .empty
  s.tellAll (Notice.ofRun job attempts)
  let report := Report.ofAttempts attempts
  s.out (String.join (report.outcomes.map (artifactText store)))
  conclude s report

/-- Generates into a directory. -/
def realRun [Monad m] (s : Session m H) (dir : String) (policy : OverwritePolicy) (job : Job) :
    ExceptT Complaint m Unit := do
  s.out (setting "Output" dir)
  let created ← (OutputDirectory.create s.files dir policy.confirm : m _)
  let output ← orFail created
  let attempts ← (job.run (output.provider s.files) : m _)
  s.tellAll (Notice.ofRun job attempts)
  let report := Report.ofAttempts attempts
  s.out "\n"
  (printOutcomes s dir report.outcomes : m _)
  conclude s report

def runBackend [Monad m] (s : Session m H) (configPath : String) (args : BackendArgs) :
    ExceptT Complaint m Unit := do
  let found ← findConfig s configPath
  let config := args.override found
  s.tell (.configSettled config)
  let request ← orFail config.toRequest
  s.out (heading ("tegel backend: " ++ request.name))
  s.out (setting "AST visitor" (if request.astVisitor then "yes" else "no"))
  s.out (setting "Nodes" (toString request.nodes.length))
  let params ← orFail request.toParams
  let job ← orFail (Job.ofParams params)
  if args.dryRun then dryRun s job
  else realRun s config.outputDir args.policy job

def runNodes [Monad m] (s : Session m H) (sorted : Bool) : m Unit :=
  s.out (String.join ((if sorted then sortedNodes builtinNodes else builtinNodes).map (· ++ "\n")))

/-- Prints the configuration in force, or writes one to start from where there is none. -/
def runConfig [Monad m] (s : Session m H) (path : String) (write : Bool) :
    ExceptT Complaint m Unit := do
  if write then
    if ← s.files.pathExists path then throw (.alreadyThere path)
    else
      let saved ← (Config.starter.save s.files path : m _)
      orFail saved
      s.out (success ("Wrote " ++ path))
  else
    let config ← findConfig s path
    s.out (config.text ++ "\n")

/-- The positions of a cursor over so many items, one on a line. -/
def positionLines (length : Nat) : List String :=
  (positioned (Array.replicate length ())).map fun (p, _) => p.text ++ "\n"

def execute [Monad m] (s : Session m H) (configPath : String) : Command → ExceptT Complaint m Unit
  | .backend args => runBackend s configPath args
  | .nodes sorted => (runNodes s sorted : m _)
  | .config write => runConfig s configPath write
  | .cursor length => s.out (String.join (positionLines length))

/-- How the program can be called. -/
def usage : String :=
  "usage: tegel [--config PATH] [-v] backend [-n NAME] [-a | --no-ast-visitor] [--dir DIR] " ++
  "[--node NODE] [--force | --no-clobber] [--dry-run]\n" ++
  "       tegel [--config PATH] [-v] nodes [--sorted]\n" ++
  "       tegel [--config PATH] [-v] config [--write]\n" ++
  "       tegel [--config PATH] [-v] cursor LEN\n"

/-- The exit status is 1 if the command fails, and 2 if there is none to run. -/
def run [Monad m] (h : Host m H) (args : List String) : m UInt32 := do
  match parse args with
  | .error .usage =>
    h.err usage
    pure 2
  | .error (.version text) =>
    h.out (text ++ "\n")
    pure 0
  | .ok invocation =>
    let s : Session m H := { h with verbosity := invocation.verbosity }
    match ← (execute s invocation.configPath invocation.command).run with
    | .ok () => pure 0
    | .error complaint =>
      h.err complaint.text
      pure 1

end Scaffold.Cli
