import Scaffold.Config.Decode
import Scaffold.Files.System

/-!
Configurations in files.
-/
namespace Scaffold.Config

variable {m : Type → Type} {H : Type}

/-- The configuration in a file that must be there. -/
def load [Monad m] (fs : FileSystem m H) (path : String) : m (Except Failure Config) := do
  match ← fs.readText path with
  | .error fault => pure (.error (.configUnreadable path fault))
  | .ok text => pure ((decode text).mapError (.configMalformed path))

/-- The configuration in a file, or nothing if nothing is found at its path. -/
def loadIfThere [Monad m] (fs : FileSystem m H) (path : String) :
    m (Option (Except Failure Config)) := do
  if ← fs.pathExists path then
    let result ← load fs path
    pure (some result)
  else pure none

/-- The configuration in a file, or the standard one. -/
def loadOrStandard [Monad m] (fs : FileSystem m H) (path : String) : m (Except Failure Config) := do
  let found ← loadIfThere fs path
  pure (found.getD (.ok standard))

/-- Writes a configuration to a file, with a line end after it. -/
def save [Monad m] (fs : FileSystem m H) (c : Config) (path : String) :
    m (Except Failure Unit) := do
  let written ← fs.writeText path (c.text ++ "\n")
  pure (written.mapError .io)

end Scaffold.Config
