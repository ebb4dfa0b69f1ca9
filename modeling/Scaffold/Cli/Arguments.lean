import Scaffold.Decimal.Size

/-!
The command line: options, subcommands, and what they ask for.

Options may stand before or after the subcommand where they concern all of them. An option that
takes a value takes what is attached to it, or the next argument if that is not an option itself.
-/
namespace Scaffold.Cli

/-- Settings of the backend command; of the visitor flags the last one counts. -/
structure BackendArgs where
  name : Option String
  astVisitor : Option Bool
  dir : Option String
  nodes : List String
  force : Bool
  noClobber : Bool
  dryRun : Bool
  deriving DecidableEq, Repr

inductive Command where
  | backend (args : BackendArgs)
  | nodes (sorted : Bool)
  | config (write : Bool)
  | cursor (length : Nat)
  deriving DecidableEq, Repr

structure Invocation where
  configPath : String
  verbosity : Nat
  command : Command
  deriving DecidableEq, Repr

/-- Why there is no command to run. -/
inductive Stop where
  | usage
  | version (text : String)
  deriving DecidableEq, Repr

def defaultConfigPath : String := "tegel.config.json"

/-! ### Options -/

/-- The options that all subcommands know. -/
structure Common where
  config : Option String
  verbosity : Nat

def Common.none : Common := ⟨.none, 0⟩

/-- What is given after the subcommand counts before what is given before it. -/
def Common.override (outer inner : Common) : Common where
  config := inner.config <|> outer.config
  verbosity := if inner.verbosity = 0 then outer.verbosity else inner.verbosity

/-- What an option does to the settings so far; nothing comes of one that is not allowed. -/
inductive Action (σ : Type) where
  | flag (set : σ → Option σ)
  | value (set : σ → String → Option σ)
  | version

structure Opt (σ : Type) where
  long : String
  short : Option Char
  action : Action σ

variable {σ : Type}

/-- An option that may be given once. -/
def once {α : Type} (get : σ → Option α) (set : σ → α → σ) (s : σ) (x : α) : Option σ :=
  match get s with
  | some _ => none
  | none => some (set s x)

/-- A flag that may be given once. -/
def onceFlag (get : σ → Bool) (set : σ → σ) (s : σ) : Option σ :=
  if get s then none else some (set s)

def nonEmpty (s : String) : Option String := if s.isEmpty then none else some s

/-- The options that stand for themselves in any place. -/
def commonOptions (get : σ → Common) (set : σ → Common → σ) : List (Opt σ) := [
  ⟨"config", none, .value fun s x => do
    let x ← nonEmpty x
    once (fun s => (get s).config) (fun s x => set s { get s with config := some x }) s x⟩,
  ⟨"verbose", some 'v', .flag fun s =>
    some (set s { get s with verbosity := (get s).verbosity + 1 })⟩,
  ⟨"version", some 'V', .version⟩]

/-! ### Reading -/

/-- A syntax of options and other arguments for one command. -/
structure Grammar (σ : Type) where
  title : String
  options : List (Opt σ)
  positional : σ → String → Option σ

/-- Arguments that begin with a dash are options, a dash alone is not. -/
def looksLikeOption (s : String) : Bool := s.toList.head? = some '-' && s ≠ "-"

def orUsage {α : Type} : Option α → Except Stop α
  | some x => .ok x
  | none => .error .usage

namespace Grammar

def stopWithVersion {α : Type} (g : Grammar σ) : Except Stop α :=
  .error (.version (g.title ++ " 0.1.0"))

/-- Gives an option its value: the one attached to it, or else the next argument, which is then
used up. -/
def setValue (set : σ → String → Option σ) (s : σ) (attached : Option String)
    (next : List String) : Except Stop (σ × Bool) :=
  match attached with
  | some x => (orUsage (set s x)).map (·, false)
  | none =>
    match next with
    | [] => .error .usage
    | x :: _ =>
      if looksLikeOption x then .error .usage else (orUsage (set s x)).map (·, true)

/-- A long option, after its two dashes; tells whether the next argument is used up. -/
def long (g : Grammar σ) (s : σ) (text : List Char) (next : List String) :
    Except Stop (σ × Bool) :=
  let name := String.ofList (text.takeWhile (· ≠ '='))
  let attached := match text.dropWhile (· ≠ '=') with
    | [] => none
    | _ :: x => some (String.ofList x)
  match g.options.find? (·.long == name) with
  | none => .error .usage
  | some o =>
    match o.action, attached with
    | .value set, attached => setValue set s attached next
    | .flag set, none => (orUsage (set s)).map (·, false)
    | .version, none => g.stopWithVersion
    | _, some _ => .error .usage

/-- The value attached to a short option, without the sign of equality that may come first. -/
def attachedValue : List Char → Option String
  | [] => none
  | '=' :: x => some (String.ofList x)
  | x => some (String.ofList x)

/-- Short options behind one dash. One that takes a value takes all that follows. -/
def cluster (g : Grammar σ) (s : σ) (next : List String) :
    List Char → Except Stop (σ × Bool)
  | [] => .ok (s, false)
  | c :: rest =>
    match g.options.find? (·.short == some c) with
    | none => .error .usage
    | some o =>
      match o.action with
      | .version => g.stopWithVersion
      | .value set => setValue set s (attachedValue rest) next
      | .flag set =>
        match set s with
        | none => .error .usage
        | some s => cluster g s next rest

/-- Arguments that are no options, whatever they look like. -/
def positionals (g : Grammar σ) (s : σ) : List String → Except Stop σ
  | [] => .ok s
  | x :: rest => do
    let s ← orUsage (g.positional s x)
    positionals g s rest

/-- One argument that looks like an option. -/
def option (g : Grammar σ) (s : σ) (x : String) (next : List String) : Except Stop (σ × Bool) :=
  match x.toList with
  | '-' :: '-' :: text => g.long s text next
  | '-' :: text => g.cluster s next text
  | _ => .error .usage

/-- All arguments of a command. -/
def read (g : Grammar σ) (s : σ) : List String → Except Stop σ
  | [] => .ok s
  | x :: rest =>
    if x = "--" then g.positionals s rest
    else if looksLikeOption x then
      match g.option s x rest, rest with
      | .error stop, _ => .error stop
      | .ok (s, true), _ :: rest => read g s rest
      | .ok (s, _), rest => read g s rest
    else match g.positional s x with
      | none => .error .usage
      | some s => read g s rest
termination_by args => args.length

/-- Options up to the first argument that is none, which names a subcommand. -/
def readHead (g : Grammar σ) (s : σ) : List String → Except Stop (σ × String × List String)
  | [] => .error .usage
  | x :: rest =>
    if x = "--" then .error .usage
    else if looksLikeOption x then
      match g.option s x rest, rest with
      | .error stop, _ => .error stop
      | .ok (s, true), _ :: rest => readHead g s rest
      | .ok (s, _), rest => readHead g s rest
    else .ok (s, x, rest)
termination_by args => args.length

end Grammar

/-! ### The commands -/

def rootGrammar : Grammar Common where
  title := "tegel"
  options := commonOptions id fun _ c => c
  positional := fun _ _ => none

/-- Settings of a subcommand with those common to all. -/
structure With (α : Type) where
  common : Common
  own : α

def With.options {α : Type} : List (Opt (With α)) :=
  commonOptions With.common fun s c => { s with common := c }

/-- An option of the subcommand itself. -/
def own {α : Type} (set : α → Option α) (s : With α) : Option (With α) :=
  (set s.own).map fun x => { s with own := x }

/-- Of the two visitor flags, giving one takes the other back; the same one cannot be given
twice. -/
def setVisitor (on : Bool) (a : BackendArgs) : Option BackendArgs :=
  if a.astVisitor = some on then none else some { a with astVisitor := some on }

def backendGrammar : Grammar (With BackendArgs) where
  title := "tegel-backend"
  options := With.options ++ [
    ⟨"name", some 'n', .value fun s x =>
      own (fun a => once BackendArgs.name (fun a x => { a with name := some x }) a x) s⟩,
    ⟨"ast-visitor", some 'a', .flag (own (setVisitor true))⟩,
    ⟨"no-ast-visitor", none, .flag (own (setVisitor false))⟩,
    ⟨"dir", none, .value fun s x => own (fun a => do
      let x ← nonEmpty x
      once BackendArgs.dir (fun a x => { a with dir := some x }) a x) s⟩,
    ⟨"node", none, .value fun s x => own (fun a => some { a with nodes := a.nodes ++ [x] }) s⟩,
    ⟨"force", none, .flag (own (onceFlag BackendArgs.force fun a => { a with force := true }))⟩,
    ⟨"no-clobber", none,
      .flag (own (onceFlag BackendArgs.noClobber fun a => { a with noClobber := true }))⟩,
    ⟨"dry-run", none, .flag (own (onceFlag BackendArgs.dryRun fun a => { a with dryRun := true }))⟩]
  positional := fun _ _ => none

/-- The grammar of a subcommand with a single flag. -/
def flagGrammar (title flag : String) : Grammar (With Bool) where
  title := title
  options := With.options ++ [⟨flag, none, .flag (own (onceFlag id fun _ => true))⟩]
  positional := fun _ _ => none

def cursorGrammar : Grammar (With (Option Nat)) where
  title := "tegel-cursor"
  options := With.options
  positional := fun s x => do
    let n ← Decimal.size? x
    own (fun a => once id (fun _ n => some n) a n) s

def noBackendArgs : BackendArgs := ⟨none, none, none, [], false, false, false⟩

/-- Reads the arguments of a subcommand. -/
def readCommand (name : String) (args : List String) : Except Stop (Common × Command) :=
  if name = "backend" then do
    let s ← backendGrammar.read ⟨.none, noBackendArgs⟩ args
    if s.own.force && s.own.noClobber then .error .usage
    else .ok (s.common, .backend s.own)
  else if name = "nodes" then do
    let s ← (flagGrammar "tegel-nodes" "sorted").read ⟨.none, false⟩ args
    .ok (s.common, .nodes s.own)
  else if name = "config" then do
    let s ← (flagGrammar "tegel-config" "write").read ⟨.none, false⟩ args
    .ok (s.common, .config s.own)
  else if name = "cursor" then do
    let s ← cursorGrammar.read ⟨.none, none⟩ args
    let n ← orUsage s.own
    .ok (s.common, .cursor n)
  else .error .usage

/-- What the arguments of the program ask for. -/
def parse (args : List String) : Except Stop Invocation := do
  let (outer, name, rest) ← rootGrammar.readHead .none args
  let (inner, command) ← readCommand name rest
  let common := outer.override inner
  .ok ⟨common.config.getD defaultConfigPath, common.verbosity, command⟩

end Scaffold.Cli
