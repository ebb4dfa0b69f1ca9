import Scaffold.Report
import Scaffold.Request
import Scaffold.Sink.Basic
import Scaffold.Skeleton

/-!
Generating a backend.

All names are rendered and all parameters derived before the first sink is opened, so that a bad
request leaves nothing behind. Then the artifacts are attempted one after the other; what happens
to one does not stop the next. An opened sink is always released.
-/
namespace Scaffold

variable {m : Type → Type} {S T : Type}

/-- An artifact that is ready to be written. -/
structure Assignment where
  kind : ArtifactKind
  path : String
  body : Body
  params : Params

/-- A valid request with its artifacts. -/
structure Job where
  request : Request
  assignments : List Assignment

/-- How the attempt to write an artifact ended. -/
inductive Attempt where
  | declined
  | unavailable (failure : Failure)
  | broken (failure : Failure)
  | written (bytes : Nat)

def Attempt.status : Attempt → Status
  | .declined => .skipped
  | .unavailable failure => .failed failure.chain
  | .broken failure => .failed failure.chain
  | .written bytes => .written bytes

namespace Assignment

/-- The artifact of a descriptor under the parameters of a backend. -/
def ofDescriptor (root : Params) (d : Descriptor) : Except Failure Assignment := do
  let path ← d.path root
  let params ← d.derive root
  .ok ⟨d.kind, path, d.body, params⟩

def ofDescriptors (root : Params) : List Descriptor → Except Failure (List Assignment)
  | [] => .ok []
  | d :: ds => do
    let a ← ofDescriptor root d
    let as ← ofDescriptors root ds
    .ok (a :: as)

end Assignment

/-- Writes the text of a body; nothing is appended if its parameters are wrong. -/
def Body.write [Monad m] (k : Sink m S) (body : Body) (params : Params) (s : S) :
    m (Except Failure Nat × S) :=
  match body.fragments params with
  | .error failure => pure (.error failure, s)
  | .ok fragments => k.write fragments s

/-- A failure to write comes before a failure to release. -/
def Attempt.ofResults : Except Failure Nat → Except Failure Unit → Attempt
  | .error failure, _ => .broken failure
  | .ok _, .error failure => .broken failure
  | .ok bytes, .ok () => .written bytes

/-- Writes one artifact. -/
def Assignment.attempt [Monad m] (p : Provider m S) (a : Assignment) : m Attempt := do
  match ← p.openSink a.path with
  | .declined => pure .declined
  | .failed failure => pure (.unavailable failure)
  | .opened s =>
    let (emitted, s) ← a.body.write p.toSink a.params s
    let released ← p.release s
    pure (.ofResults emitted released)

def Assignment.outcome (a : Assignment) (attempt : Attempt) : Outcome :=
  ⟨a.kind, a.path, attempt.status⟩

namespace Job

/-- The job that parameters describe. -/
def ofParams (params : Params) : Except Failure Job := do
  let request ← Request.ofParams params
  request.validate
  let assignments ← Assignment.ofDescriptors request.asParams backendArtifacts
  .ok ⟨request, assignments⟩

/-- Attempts artifacts in order. -/
def attemptAll [Monad m] (p : Provider m S) : List Assignment → m (List (Assignment × Attempt))
  | [] => pure []
  | a :: as => do
    let attempt ← a.attempt p
    let rest ← attemptAll p as
    pure ((a, attempt) :: rest)

def run [Monad m] (p : Provider m S) (job : Job) : m (List (Assignment × Attempt)) :=
  attemptAll p job.assignments

end Job

def Report.ofAttempts (attempts : List (Assignment × Attempt)) : Report :=
  ⟨attempts.map fun (a, attempt) => a.outcome attempt⟩

/-- Generates the backend that parameters describe. -/
def generate [Monad m] (p : Provider m S) (params : Params) : m (Except Failure Report) :=
  match Job.ofParams params with
  | .error failure => pure (.error failure)
  | .ok job => do
    let attempts ← job.run p
    pure (.ok (.ofAttempts attempts))

/-- Expands a body. The text of an artifact goes to the given sink and has an empty report; a
backend opens its own sinks and leaves the given one alone. -/
def dispatch [Monad m] (p : Provider m S) (k : Sink m T) (params : Params) (body : Body) (t : T) :
    m (Except Failure Report × T) :=
  match body with
  | .backend => do
    let result ← generate p params
    pure (result, t)
  | body => do
    let (result, t) ← body.write k params t
    pure (result.map fun _ => .empty, t)

end Scaffold
