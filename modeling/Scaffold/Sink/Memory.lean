import Scaffold.Path
import Scaffold.Sink.Basic
import Scaffold.Table

/-!
Artifacts in memory. What is appended to a sink shows in the store when the sink is released, in
place of an earlier artifact of an equal path.
-/
namespace Scaffold

/-- The artifacts by path, and the paths that will not be opened. -/
structure MemoryStore where
  artifacts : List (String × String)
  declined : List String
  unavailable : List String

structure MemorySink where
  path : String
  contents : String

namespace MemorySink

def append (s : MemorySink) (text : String) : MemorySink :=
  { s with contents := s.contents ++ text }

end MemorySink

namespace MemoryStore

def empty : MemoryStore := ⟨[], [], []⟩

/-- An empty store that declines some paths and fails on others. -/
def refusing (declined unavailable : List String) : MemoryStore := ⟨[], declined, unavailable⟩

def get? (store : MemoryStore) (path : String) : Option String :=
  Table.find? Path.order path store.artifacts

/-- Opening never changes the store; a path that is both declined and failing is declined. -/
def openSink (store : MemoryStore) (path : String) : Opening MemorySink :=
  if store.declined.any (Path.same path) then .declined
  else if store.unavailable.any (Path.same path) then .failed (.sinkUnavailable path .denied)
  else .opened ⟨path, ""⟩

def release (store : MemoryStore) (s : MemorySink) : MemoryStore :=
  { store with artifacts := Table.insert Path.order s.path s.contents store.artifacts }

def paths (store : MemoryStore) : List String := store.artifacts.map Prod.fst

def provider : Provider (StateM MemoryStore) MemorySink where
  append s text := pure (.ok (), s.append text)
  openSink path store := (store.openSink path, store)
  release s store := (.ok (), store.release s)

end MemoryStore

end Scaffold
