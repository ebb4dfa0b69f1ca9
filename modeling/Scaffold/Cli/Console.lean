import Scaffold.Cli.Notice
import Scaffold.Files.Tree

/-!
What a command needs around it: files, a place for its results and one for its complaints.

A transcript stands for the two places, so that a command can be run on a directory tree in memory
and what it prints be looked at.
-/
namespace Scaffold.Cli

variable {m : Type → Type} {H : Type}

structure Host (m : Type → Type) (H : Type) where
  files : FileSystem m H
  /-- Prints a result. -/
  out : String → m Unit
  /-- Prints a complaint or a notice. -/
  err : String → m Unit

/-- A host with the verbosity that was asked for. -/
structure Session (m : Type → Type) (H : Type) extends Host m H where
  verbosity : Nat

namespace Session

/-- Shows a notice if its level is asked for. -/
def tell [Monad m] (s : Session m H) (n : Notice) : m Unit :=
  if n.level.threshold ≤ s.verbosity then s.err n.line else pure ()

def tellAll [Monad m] (s : Session m H) : List Notice → m Unit
  | [] => pure ()
  | n :: ns => do
    s.tell n
    s.tellAll ns

end Session

/-! ### Lines -/

/-- A title, underlined in its length, after an empty line. -/
def heading (text : String) : String :=
  "\n" ++ text ++ "\n" ++ String.ofList (List.replicate text.length '=') ++ "\n"

def setting (key value : String) : String := "  " ++ key ++ ": " ++ value ++ "\n"

/-- A line with a mark in front that tells how something went. -/
def marked (mark text : String) : String := "[" ++ mark ++ "] " ++ text ++ "\n"

def success (text : String) : String := marked "OK" text
def skipped (text : String) : String := marked "SKIP" text
def warning (text : String) : String := marked "WARN" text
def failed (text : String) : String := marked "ERROR" text

/-! ### Complaints -/

/-- Why a command failed. -/
inductive Complaint where
  | failure (f : Failure)
  | nothingGenerated
  | alreadyThere (path : String)

namespace Complaint

def message : Complaint → String
  | .failure f => f.message
  | .nothingGenerated => "no artifacts were generated"
  | .alreadyThere path => path ++ " already exists"

def cause? : Complaint → Option String
  | .failure f => f.cause?
  | _ => none

/-- A text whose every line is moved to the right. -/
def indented (text : String) : String :=
  String.ofList <| "    ".toList
    ++ text.toList.flatMap fun c => if c = '\n' then "\n    ".toList else [c]

/-- The message, and the cause below it. -/
def text (c : Complaint) : String :=
  "Error: " ++ c.message
    ++ (match c.cause? with
      | some cause => "\n\nCaused by:\n" ++ indented cause
      | none => "")
    ++ "\n"

end Complaint

/-! ### Runs in memory -/

/-- All that has been printed. -/
structure Transcript where
  out : String
  err : String
  deriving DecidableEq, Repr

def Transcript.empty : Transcript := ⟨"", ""⟩

/-- A host on a directory tree, which keeps what is printed. -/
def treeHost : Host (StateT FileTree (StateM Transcript)) FileHandle where
  files := FileTree.fileSystem
  out text := fun tree => do
    modify fun t => { t with out := t.out ++ text }
    pure ((), tree)
  err text := fun tree => do
    modify fun t => { t with err := t.err ++ text }
    pure ((), tree)

end Scaffold.Cli
