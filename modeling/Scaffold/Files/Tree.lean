import Scaffold.Files.System
import Scaffold.Table

/-!
Directory trees with symbolic links, and the way paths are resolved in them.
-/
namespace Scaffold

/-- Names on the way down from the root. -/
abbrev Location := List String

inductive Entry where
  | file (bytes : ByteArray)
  | directory
  | link (target : String)
  /-- A device that takes no byte. -/
  | fullDevice

/-- What is where below the root, and the directory that relative paths start from. -/
structure FileTree where
  entries : List (Location × Entry)
  workingDirectory : Location

/-- Where a path leads: to an entry, or to a free name in a directory. -/
inductive Landing where
  | taken (location : Location) (entry : Entry)
  | free (location : Location)

/-- A file opened for writing, with the offset of the next write, or a full device. -/
inductive FileHandle where
  | file (location : Location) (offset : Nat)
  | fullDevice

namespace FileTree

def entry? (t : FileTree) (location : Location) : Option Entry :=
  if location = [] then some .directory else Table.find? compare location t.entries

def put (t : FileTree) (location : Location) (e : Entry) : FileTree :=
  { t with entries := Table.insert compare location e t.entries }

/-! ### Resolution -/

def longestName : Nat := 255
def longestPath : Nat := 4095
def mostLinks : Nat := 40

/-- The names between the slashes of a path. -/
def names (path : String) : List String :=
  (Text.fields '/' path.toList).filter (· ≠ []) |>.map String.ofList

/-- The names of a path, and an empty one for a slash at the end. -/
def steps (path : String) : List String :=
  if path.toList.getLast? = some '/' then names path ++ [""] else names path

/-- The directory where a path begins, when met in a directory. -/
def origin (here : Location) (path : String) : Location := if Path.isAbsolute path then [] else here

/-- What a path is followed for. -/
structure Purpose where
  /-- Whether a link that comes last is followed. -/
  followsLast : Bool
  /-- Whether a file is to be made, which no slash may come after. -/
  makesFile : Bool

/-- Follows names from a directory. All links together that are followed, those in the targets of
others included, are at most `links`. -/
def walk (t : FileTree) (purpose : Purpose) (links : Nat) (here : Location) :
    List String → Except IoFault Landing
  | [] => .ok (.taken here .directory)
  | name :: rest =>
    if name = "" || name = "." then t.walk purpose links here rest
    else if name = ".." then t.walk purpose links here.dropLast rest
    else if purpose.makesFile && rest = [""] then .error .isDirectory
    else if longestName < name.utf8ByteSize then .error .nameTooLong
    else
      let there := here ++ [name]
      match t.entry? there with
      | none => if rest.isEmpty then .ok (.free there) else .error .notFound
      | some .directory => t.walk purpose links there rest
      | some (.link target) =>
        if rest.isEmpty && !purpose.followsLast then .ok (.taken there (.link target))
        else match links with
          | 0 => .error .tooManyLinks
          | links + 1 => t.walk purpose links (origin here target) (steps target ++ rest)
      | some e => if rest.isEmpty then .ok (.taken there e) else .error .notDirectory
termination_by names => (links, names.length)

/-- A path that can be looked up: not empty, not too long, and without the character NUL. -/
def checkPath (path : String) : Except IoFault Unit :=
  if path.toList.contains '\x00' then .error .nulInPath
  else if path.isEmpty then .error .notFound
  else if longestPath < path.utf8ByteSize then .error .nameTooLong
  else .ok ()

def resolve (t : FileTree) (purpose : Purpose) (path : String) (names : List String) :
    Except IoFault Landing := do
  checkPath path
  t.walk purpose mostLinks (origin t.workingDirectory path) names

/-- What is found at a path once links are followed. -/
def status (t : FileTree) (path : String) : Except IoFault (Location × Entry) := do
  match ← t.resolve ⟨true, false⟩ path (steps path) with
  | .taken location e => .ok (location, e)
  | .free _ => .error .notFound

/-- The bytes of the file at a path. -/
def contents (t : FileTree) (path : String) : Except IoFault ByteArray := do
  match ← t.status path with
  | (_, .file bytes) => .ok bytes
  | (_, .directory) => .error .isDirectory
  | (_, .link _) => .error .tooManyLinks
  | (_, .fullDevice) => .error (.other "endless device")

def pathExists (t : FileTree) (path : String) : Bool := (t.status path).isOk

def isDirectory (t : FileTree) (path : String) : Bool :=
  match t.status path with
  | .ok (_, .directory) => true
  | _ => false

/-! ### Changes -/

/-- Makes a directory; a slash at the end of the path makes no difference. -/
def makeDirectory (t : FileTree) (path : String) : Except IoFault Unit × FileTree :=
  match t.resolve ⟨false, false⟩ path (names path) with
  | .error fault => (.error fault, t)
  | .ok (.taken _ _) => (.error .alreadyExists, t)
  | .ok (.free location) => (.ok (), t.put location .directory)

/-- Where a file is to be made, the last link being followed or not. -/
def target (t : FileTree) (follow : Bool) (path : String) : Except IoFault Landing :=
  t.resolve ⟨follow, true⟩ path (steps path)

def createNew (t : FileTree) (path : String) : Except IoFault FileHandle × FileTree :=
  match t.target false path with
  | .error fault => (.error fault, t)
  | .ok (.taken _ _) => (.error .alreadyExists, t)
  | .ok (.free location) => (.ok (.file location 0), t.put location (.file .empty))

def createEmpty (t : FileTree) (path : String) : Except IoFault FileHandle × FileTree :=
  match t.target true path with
  | .error fault => (.error fault, t)
  | .ok (.free location) => (.ok (.file location 0), t.put location (.file .empty))
  | .ok (.taken location (.file _)) => (.ok (.file location 0), t.put location (.file .empty))
  | .ok (.taken _ .fullDevice) => (.ok .fullDevice, t)
  | .ok (.taken _ .directory) => (.error .isDirectory, t)
  | .ok (.taken _ (.link _)) => (.error .tooManyLinks, t)

/-- Bytes with some of them replaced from an offset on; a gap before the offset is filled with
zeros. -/
def overwrite (old : ByteArray) (offset : Nat) (new : ByteArray) : ByteArray :=
  if offset = old.size then old ++ new
  else
    let gap : ByteArray := ⟨Array.replicate (offset - old.size) 0⟩
    old.extract 0 offset ++ gap ++ new ++ old.extract (offset + new.size) old.size

def write (t : FileTree) (h : FileHandle) (text : String) :
    Except IoFault FileHandle × FileTree :=
  match h with
  | .fullDevice => if text.isEmpty then (.ok h, t) else (.error .noSpace, t)
  | .file location offset =>
    match t.entry? location with
    | some (.file old) =>
      (.ok (.file location (offset + text.utf8ByteSize)),
        t.put location (.file (overwrite old offset text.toUTF8)))
    | _ => (.error .notFound, t)

/-- The tree as a file system, whatever other state there is. -/
def fileSystem {n : Type → Type} [Monad n] : FileSystem (StateT FileTree n) FileHandle where
  readFile path := fun t => pure (t.contents path, t)
  pathExists path := fun t => pure (t.pathExists path, t)
  isDirectory path := fun t => pure (t.isDirectory path, t)
  makeDirectory path := fun t => pure (t.makeDirectory path)
  createNew path := fun t => pure (t.createNew path)
  createEmpty path := fun t => pure (t.createEmpty path)
  write h text := fun t => pure (t.write h text)

end FileTree

end Scaffold
