import Scaffold.Failure

/-!
Sinks take text piece by piece; providers open one sink for each path and take it back.

Both are given by what they do in some monad, so that the same generation runs over stores in
memory, over a directory tree and over files.
-/
namespace Scaffold

variable {m : Type → Type} {S : Type}

/-- How text is appended to a sink, which may be refused. -/
structure Sink (m : Type → Type) (S : Type) where
  append : S → String → m (Except Failure Unit × S)

/-- The answer of a provider that is asked for a sink. -/
inductive Opening (S : Type) where
  | opened (sink : S)
  | declined
  | failed (failure : Failure)

structure Provider (m : Type → Type) (S : Type) extends Sink m S where
  openSink : String → m (Opening S)
  release : S → m (Except Failure Unit)

/-- Appends fragments up to the first that is refused; gives the number of bytes if all were
accepted. -/
def Sink.write [Monad m] (k : Sink m S) : List String → S → m (Except Failure Nat × S)
  | [], s => pure (.ok 0, s)
  | f :: fs, s => do
    match ← k.append s f with
    | (.error failure, s) => pure (.error failure, s)
    | (.ok (), s) =>
      let (result, s) ← k.write fs s
      pure (result.map (f.utf8ByteSize + ·), s)

end Scaffold
