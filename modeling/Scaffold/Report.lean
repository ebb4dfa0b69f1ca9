import Scaffold.Artifact

/-!
Reports: what became of each artifact.
-/
namespace Scaffold

/-- An artifact was written with so many bytes, skipped because it was to stay as it is, or failed
with a message. -/
inductive Status where
  | written (bytes : Nat)
  | skipped
  | failed (message : String)
  deriving DecidableEq, Repr

namespace Status

def isWritten : Status → Bool
  | .written _ => true
  | _ => false

def isSkipped : Status → Bool
  | .skipped => true
  | _ => false

def isFailed : Status → Bool
  | .failed _ => true
  | _ => false

end Status

structure Outcome where
  kind : ArtifactKind
  path : String
  status : Status
  deriving DecidableEq, Repr

structure Report where
  outcomes : List Outcome
  deriving DecidableEq, Repr

namespace Report

def empty : Report := ⟨[]⟩

def push (r : Report) (o : Outcome) : Report := ⟨r.outcomes ++ [o]⟩

def written (r : Report) : List Outcome := r.outcomes.filter (·.status.isWritten)
def skipped (r : Report) : List Outcome := r.outcomes.filter (·.status.isSkipped)
def failed (r : Report) : List Outcome := r.outcomes.filter (·.status.isFailed)

/-- Everything was written, and there was something. -/
def isComplete (r : Report) : Bool :=
  !r.outcomes.isEmpty && r.written.length == r.outcomes.length

/-- Something was written, but not everything. -/
def isPartial (r : Report) : Bool :=
  0 < r.written.length && r.written.length < r.outcomes.length

/-- Nothing was written. -/
def isTotalFailure (r : Report) : Bool := r.written.length == 0

end Report

end Scaffold
