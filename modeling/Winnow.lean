import Winnow.Main
import Winnow.Proofs.Number.Bits
import Winnow.Proofs.Number.Rounding
import Winnow.Proofs.Number.Decimal
import Winnow.Proofs.Number.Digits
import Winnow.Proofs.Number.Shortest
import Winnow.Proofs.Number.ReadFloat
import Winnow.Proofs.Json.Numbers
import Winnow.Proofs.Json.Strings
import Winnow.Proofs.Expr.Lexing
import Winnow.Proofs.Expr.Reading
import Winnow.Proofs.Spec.Lexemes
import Winnow.Proofs.Config.ReadSpec
import Winnow.Proofs.Spec.Stages
import Winnow.Proofs.Spec.Tree
import Winnow.Proofs.Spec.Meaning
import Winnow.Proofs.Expr.Evaluation
import Winnow.Proofs.Spec.Values
import Winnow.Proofs.Spec.Path
import Winnow.Proofs.Spec.Stepwise
import Winnow.Proofs.Spec.Run
import Winnow.Proofs.Outcome
import Winnow.Proofs.Number.Characters
import Winnow.Proofs.Json.Documents
import Winnow.Proofs.Json.Characters
import Winnow.Proofs.Spec.Compilation
import Winnow.Proofs.Spec.Faults
import Winnow.Proofs.Spec.Characters
import Winnow.Proofs.Config.Settings
import Winnow.Proofs.Files.Tree
import Winnow.Proofs.Files.Alike
import Winnow.Proofs.Host
import Winnow.Proofs.DocumentFile
import Winnow.Proofs.Output.ResultFile
import Winnow.Proofs.Agreement
import Winnow.Proofs.Command.Arguments
import Winnow.Proofs.Command.Run
import Winnow.Proofs.Command.Agreement
import Winnow.Proofs.Text.Spelling
import Winnow.Proofs.Config.Entry
import Winnow.Proofs.Spec.Pipe
import Winnow.Proofs.Config.NormalForm
import Winnow.Proofs.Config.Keys
import Winnow.Proofs.Config.Lookup
import Winnow.Proofs.Config.Proper
import Winnow.Proofs.Config.Merge
import Winnow.Proofs.Config.Overlay
import Winnow.Proofs.Config.Layers
import Winnow.Proofs.Config.Schema
import Winnow.Proofs.Config.Change
import Winnow.Proofs.Config.Blame
import Winnow.Proofs.Config.Null
import Winnow.Proofs.Config.Damage
import Winnow.Proofs.Files.Directories
import Winnow.Proofs.Log.Delivery
import Winnow.Proofs.Output.Writers
import Winnow.Proofs.Command.Outcome
import Winnow.Proofs.Command.Abort
import Winnow.Proofs.Command.Display
import Winnow.Proofs.Command.Series
import Winnow.Proofs.Log.Series
import Winnow.Proofs.Json.Entries
import Winnow.Proofs.Json.Writable
import Winnow.Proofs.Json.Split
import Winnow.Proofs.Output.Accord
import Winnow.Proofs.Output.Saving
import Winnow.Proofs.Output.Shown
import Winnow.Proofs.Spec.Projection
import Winnow.Proofs.Config.Root
import Winnow.Proofs.Spec.Head
import Winnow.Proofs.Spec.Classification
import Winnow.Proofs.Spec.Literal
