import Scaffold.Sink.Basic

/-!
A sink that takes a limited number of bytes. A piece of text that does not fit is refused as a
whole.
-/
namespace Scaffold

/-- A sink with its name in failures, the bytes it can still take (any number if `none`), and what
it has taken. -/
structure BudgetSink where
  path : String
  left : Option Nat
  text : String
  appends : Nat

namespace BudgetSink

def empty (path : String) (budget : Option Nat) : BudgetSink := ⟨path, budget, "", 0⟩

def exhausted (s : BudgetSink) : Failure := .writeFailed s.path (.other "budget exhausted")

/-- Takes a text that fits. -/
def take (s : BudgetSink) (text : String) : BudgetSink :=
  { s with
    left := s.left.map (· - text.utf8ByteSize)
    text := s.text ++ text
    appends := s.appends + 1 }

def append (s : BudgetSink) (text : String) : Except Failure Unit × BudgetSink :=
  if (s.left.map fun left => decide (left < text.utf8ByteSize)).getD false then
    (.error s.exhausted, s)
  else (.ok (), s.take text)

def sink {m : Type → Type} [Monad m] : Sink m BudgetSink := ⟨fun s text => pure (s.append text)⟩

end BudgetSink

end Scaffold
