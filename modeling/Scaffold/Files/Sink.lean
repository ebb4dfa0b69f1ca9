import Scaffold.Files.System
import Scaffold.Sink.Basic

/-!
Artifacts as files in a directory.

Text is collected in a buffer and written out when the buffer is full, when the sink is closed, and
when it is dropped. An entry that is already there is replaced only if a prompt agrees.
-/
namespace Scaffold

variable {m : Type → Type} {H : Type}

/-- An open file with the text that has not been written out yet. -/
structure FileWriter (H : Type) where
  handle : H
  pending : String

/-- A sink for a file, without a writer once it is closed. -/
structure FileSink (H : Type) where
  path : String
  writer : Option (FileWriter H)

namespace FileWriter

/-- The number of bytes a buffer holds. -/
def capacity : Nat := 8192

def spare (w : FileWriter H) : Nat := capacity - w.pending.utf8ByteSize

/-- Writes the buffer out. -/
def flush [Monad m] (fs : FileSystem m H) (w : FileWriter H) :
    m (Except IoFault Unit × FileWriter H) := do
  if w.pending.isEmpty then pure (.ok (), w)
  else match ← fs.write w.handle w.pending with
    | .ok handle => pure (.ok (), ⟨handle, ""⟩)
    | .error fault => pure (.error fault, w)

/-- Buffers a text, or writes it at once if it is as long as the buffer. -/
def accept [Monad m] (fs : FileSystem m H) (w : FileWriter H) (text : String) :
    m (Except IoFault Unit × FileWriter H) := do
  if text.utf8ByteSize < capacity then pure (.ok (), { w with pending := w.pending ++ text })
  else match ← fs.write w.handle text with
    | .ok handle => pure (.ok (), { w with handle := handle })
    | .error fault => pure (.error fault, w)

/-- Takes a text, after the buffer has been written out if the text does not fit in what is left
of it. -/
def append [Monad m] (fs : FileSystem m H) (w : FileWriter H) (text : String) :
    m (Except IoFault Unit × FileWriter H) := do
  if w.spare < text.utf8ByteSize then
    match ← w.flush fs with
    | (.error fault, w) => pure (.error fault, w)
    | (.ok (), w) => w.accept fs text
  else w.accept fs text

end FileWriter

namespace FileSink

def create (path : String) (handle : H) : FileSink H := ⟨path, some ⟨handle, ""⟩⟩

/-- A failure to write to the sink's file. -/
def failing (s : FileSink H) (result : Except IoFault Unit) : Except Failure Unit :=
  result.mapError (.writeFailed s.path)

def append [Monad m] (fs : FileSystem m H) (s : FileSink H) (text : String) :
    m (Except Failure Unit × FileSink H) := do
  match s.writer with
  | none => pure (s.failing (.error .closed), s)
  | some w =>
    let (result, w) ← w.append fs text
    pure (s.failing result, { s with writer := some w })

/-- Writes the buffer out and gives the file up, even if that fails. A closed sink may be closed
again. -/
def close [Monad m] (fs : FileSystem m H) (s : FileSink H) :
    m (Except Failure Unit × FileSink H) := do
  match s.writer with
  | none => pure (.ok (), s)
  | some w =>
    let (result, _) ← w.flush fs
    pure (s.failing result, { s with writer := none })

/-- Closes the sink and lets no failure be known. -/
def drop [Monad m] (fs : FileSystem m H) (s : FileSink H) : m Unit := do
  let _ ← s.close fs
  pure ()

end FileSink

/-- A directory for artifacts, with what is asked before an entry in it is replaced. -/
structure OutputDirectory (m : Type → Type) where
  path : String
  confirm : String → m (Except Failure Bool)

/-- Answers that need no question. -/
inductive OverwritePolicy where
  | never
  | always
  deriving DecidableEq

def OverwritePolicy.confirm [Monad m] (policy : OverwritePolicy) (_ : String) :
    m (Except Failure Bool) :=
  pure (.ok (policy == .always))

namespace OutputDirectory

/-- Uses a directory for output, and makes it if it is missing. -/
def create [Monad m] (fs : FileSystem m H) (path : String)
    (confirm : String → m (Except Failure Bool)) : m (Except Failure (OutputDirectory m)) := do
  match ← fs.makeDirectories path with
  | .ok () => pure (.ok ⟨path, confirm⟩)
  | .error fault => pure (.error (.sinkUnavailable path fault))

def opening (full : String) : Except IoFault H → Opening (FileSink H)
  | .ok handle => .opened (.create full handle)
  | .error fault => .failed (.sinkUnavailable full fault)

/-- Makes a new file; if the path is taken, empties it with the prompt's consent. -/
def openSink [Monad m] (fs : FileSystem m H) (dir : OutputDirectory m) (path : String) :
    m (Opening (FileSink H)) := do
  let full := Path.join dir.path path
  match ← fs.createNew full with
  | .error .alreadyExists =>
    match ← dir.confirm full with
    | .error failure => pure (.failed failure)
    | .ok false => pure .declined
    | .ok true =>
      let file ← fs.createEmpty full
      pure (opening full file)
  | file => pure (opening full file)

def provider [Monad m] (fs : FileSystem m H) (dir : OutputDirectory m) :
    Provider m (FileSink H) where
  append s text := s.append fs text
  openSink path := dir.openSink fs path
  release s := do
    let (result, _) ← s.close fs
    pure result

end OutputDirectory

end Scaffold
