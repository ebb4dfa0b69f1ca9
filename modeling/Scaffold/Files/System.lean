import Scaffold.Failure
import Scaffold.Path

/-!
What is needed of a file system, and the operations that follow from it.
-/
namespace Scaffold

variable {m : Type → Type} {H : Type}

/-- The operations of a file system on paths and on handles of files opened for writing. -/
structure FileSystem (m : Type → Type) (H : Type) where
  /-- The bytes of a file. -/
  readFile : String → m (Except IoFault ByteArray)
  /-- Whether something is found at a path, links being followed. -/
  pathExists : String → m Bool
  /-- Whether a directory is found at a path, links being followed. -/
  isDirectory : String → m Bool
  makeDirectory : String → m (Except IoFault Unit)
  /-- Makes a file where nothing, not even a link, has been. -/
  createNew : String → m (Except IoFault H)
  /-- Makes a file or empties the one that is there. -/
  createEmpty : String → m (Except IoFault H)
  /-- Writes where the last write through the handle ended. -/
  write : H → String → m (Except IoFault H)

namespace FileSystem

/-- Reads a file that holds text. -/
def readText [Monad m] (fs : FileSystem m H) (path : String) : m (Except IoFault String) := do
  match ← fs.readFile path with
  | .error fault => pure (.error fault)
  | .ok bytes =>
    match String.fromUTF8? bytes with
    | some text => pure (.ok text)
    | none => pure (.error .notText)

/-- Replaces the contents of a file. -/
def writeText [Monad m] (fs : FileSystem m H) (path text : String) : m (Except IoFault Unit) := do
  match ← fs.createEmpty path with
  | .error fault => pure (.error fault)
  | .ok handle =>
    let written ← fs.write handle text
    pure (written.map fun _ => ())

/-- Makes a directory unless it is there. -/
def ensureDirectory [Monad m] (fs : FileSystem m H) (path : String) :
    m (Except IoFault Unit) := do
  match ← fs.makeDirectory path with
  | .ok () => pure (.ok ())
  | .error fault =>
    if ← fs.isDirectory path then pure (.ok ()) else pure (.error fault)

/-- Makes a directory after those above it, given by their paths, the nearest first, as far up as
they are missing. -/
def ensureBelow [Monad m] (fs : FileSystem m H) (path : String) :
    (above : List String) → m (Except IoFault Unit)
  | [] => fs.ensureDirectory path
  | parent :: above => do
    match ← fs.makeDirectory path with
    | .ok () => pure (.ok ())
    | .error .notFound =>
      match ← fs.ensureBelow parent above with
      | .error fault => pure (.error fault)
      | .ok () => fs.ensureDirectory path
    | .error fault =>
      if ← fs.isDirectory path then pure (.ok ()) else pure (.error fault)

/-- Makes a directory and those above it, as far as they are missing. -/
def makeDirectories [Monad m] (fs : FileSystem m H) (path : String) :
    m (Except IoFault Unit) :=
  if path.isEmpty then pure (.ok ()) else fs.ensureBelow path (Path.ancestors path)

end FileSystem

end Scaffold
