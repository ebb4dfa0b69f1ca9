import Scaffold.Text.Casing
import Scaffold.Text.PrintData
import Scaffold.Decimal.Binary64
import Scaffold.Decimal.Shortest
import Scaffold.Decimal.Size
import Scaffold.Text.Blank
import Scaffold.Text.Quoted
import Scaffold.Json.Basic
import Scaffold.Json.Fault
import Scaffold.Json.Printer
import Scaffold.Json.Reader
import Scaffold.Failure
import Scaffold.Params.Basic
import Scaffold.Params.Json
import Scaffold.Params.Decode
import Scaffold.Cursor
import Scaffold.Request
import Scaffold.Template.Basic
import Scaffold.Template.Spot
import Scaffold.Template.Route
import Scaffold.Template.Literal
import Scaffold.Template.Tag
import Scaffold.Template.Reader
import Scaffold.Template.Render
import Scaffold.Artifact
import Scaffold.Generation
import Scaffold.Path
import Scaffold.Files.Sink
import Scaffold.Files.Tree
import Scaffold.Sink.Budget
import Scaffold.Sink.Memory
import Scaffold.Sink.Scripted
import Scaffold.Cli.Arguments
import Scaffold.Config.Basic
import Scaffold.Config.Decode
import Scaffold.Config.File
import Scaffold.Digest.Sha256
import Scaffold.Cli.Console
import Scaffold.Cli.Run
import Scaffold.Main
import Scaffold.Proofs.Outcomes
import Scaffold.Proofs.Persistence
import Scaffold.Proofs.Tokens
import Scaffold.Proofs.Rehearsal
import Scaffold.Proofs.Recovery
import Scaffold.Proofs.Parameters
import Scaffold.Proofs.Saving
import Scaffold.Proofs.Publishing
import Scaffold.Proofs.Repetition
import Scaffold.Proofs.Footprints
import Scaffold.Proofs.Siblings
import Scaffold.Proofs.Commands
import Scaffold.Proofs.Enumeration
import Scaffold.Proofs.Interleaving
import Scaffold.Proofs.Rules
import Scaffold.Proofs.Recasing
import Scaffold.Proofs.Inclusion
import Scaffold.Proofs.Sorting
import Scaffold.Proofs.Members
import Scaffold.Proofs.Layers
import Scaffold.Proofs.Releases
import Scaffold.Proofs.Overlays
import Scaffold.Proofs.Advancing
import Scaffold.Proofs.Verdicts
import Scaffold.Proofs.LetterRuns
