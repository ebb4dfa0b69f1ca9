import Scaffold.Cli.Run

/-!
The program on the file system and the standard streams of its process.
-/
namespace Scaffold.Main

/-- The number the system gave with an error, and its words for it. -/
def condition? : IO.Error → Option (UInt32 × String)
  | .alreadyExists _ code text | .invalidArgument _ code text | .permissionDenied _ code text
  | .resourceExhausted _ code text | .inappropriateType _ code text | .noSuchThing _ code text =>
    some (code, text)
  | .noFileOrDirectory _ code text | .interrupted _ code text => some (code, text)
  | .otherError code text | .resourceBusy code text | .resourceVanished code text
  | .unsupportedOperation code text | .hardwareFault code text | .unsatisfiedConstraints code text
  | .illegalOperation code text | .protocolError code text | .timeExpired code text =>
    some (code, text)
  | .unexpectedEof | .userError _ => none

def fault (e : IO.Error) : IoFault :=
  match condition? e with
  | some (2, _) => .notFound
  | some (17, _) => .alreadyExists
  | some (20, _) => .notDirectory
  | some (21, _) => .isDirectory
  | some (28, _) => .noSpace
  | some (36, _) => .nameTooLong
  | some (40, _) => .tooManyLinks
  | some (code, text) => .other (systemText text code.toNat)
  | none => .other (toString e)

/-- An action with its errors as values. -/
def attempt {α : Type} (action : IO α) : IO (Except IoFault α) := do
  try
    let x ← action
    pure (.ok x)
  catch e => pure (.error (fault e))

/-- Whether a path leads to something, and whether that is a directory. -/
def status (path : String) : IO (Option Bool) := do
  try
    let place ← IO.FS.realPath path
    let directory ← place.isDir
    pure (some directory)
  catch _ => pure none

/-- Writes a text through to the file. -/
def write (h : IO.FS.Handle) (text : String) : IO IO.FS.Handle := do
  h.putStr text
  h.flush
  pure h

def files : FileSystem IO IO.FS.Handle where
  readFile path := attempt (IO.FS.readBinFile path)
  pathExists path := do
    let s ← status path
    pure s.isSome
  isDirectory path := do
    let s ← status path
    pure (s.getD false)
  makeDirectory path := attempt (IO.FS.createDir path)
  createNew path := attempt (IO.FS.Handle.mk path .writeNew)
  createEmpty path := attempt (IO.FS.Handle.mk path .write)
  write h text := attempt (write h text)

def host : Cli.Host IO IO.FS.Handle := ⟨files, IO.print, IO.eprint⟩

end Scaffold.Main

def main (args : List String) : IO UInt32 := Scaffold.Cli.run Scaffold.Main.host args
