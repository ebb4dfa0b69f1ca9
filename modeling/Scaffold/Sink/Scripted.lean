import Scaffold.Sink.Budget

/-!
A provider that follows a script, which says for each path how opening, appending and releasing
go, and that keeps a log of what it was asked for.
-/
namespace Scaffold

/-- How one path behaves. -/
structure PathScript where
  declines : Bool
  openFailure : Option Failure
  budget : Option Nat
  releaseFailure : Option Failure

namespace PathScript

/-- Everything succeeds. -/
def willing : PathScript := ⟨false, none, none, none⟩

end PathScript

/-- A request to a scripted provider; a release shows what the sink had taken. -/
inductive ScriptEvent where
  | opened (path : String)
  | released (path : String) (appends : Nat) (text : String)

/-- The log, the last event first. -/
abbrev ScriptLog := List ScriptEvent

namespace ScriptedProvider

def openSink (script : String → PathScript) (path : String) :
    StateM ScriptLog (Opening BudgetSink) := fun log =>
  let s := script path
  let answer :=
    if s.declines then .declined
    else match s.openFailure with
      | some failure => .failed failure
      | none => .opened (.empty path s.budget)
  (answer, .opened path :: log)

def release (script : String → PathScript) (k : BudgetSink) :
    StateM ScriptLog (Except Failure Unit) := fun log =>
  let answer := match (script k.path).releaseFailure with
    | some failure => .error failure
    | none => .ok ()
  (answer, .released k.path k.appends k.text :: log)

def provider (script : String → PathScript) : Provider (StateM ScriptLog) BudgetSink where
  toSink := BudgetSink.sink
  openSink := openSink script
  release := release script

end ScriptedProvider

end Scaffold
