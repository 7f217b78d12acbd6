import Emend.Host.Memory
import Emend.Main
import Emend.Proofs.Edit.Walk
import Emend.Proofs.Ledger.Sound
import Emend.Proofs.Session.Latest
import Emend.Proofs.Session.RejectAll
import Emend.Proofs.Ledger.Operation
import Emend.Proofs.Session.Failed
import Emend.Proofs.Command.Review
import Emend.Proofs.Disk
import Emend.Proofs.Host.Files
import Emend.Proofs.Document.Isomorphism
import Emend.Proofs.Outline.Symbol
import Emend.Proofs.Resolve
import Emend.Proofs.Session.Preview
import Emend.Proofs.Edit.Rearranged
import Emend.Proofs.Ledger.Verdicts
import Emend.Proofs.Compile.Lines
import Emend.Proofs.Compile.Returns
import Emend.Proofs.Instruction.RoundTrip
import Emend.Proofs.Instruction.Grammar
import Emend.Proofs.Instruction.Refusal
import Emend.Proofs.Outline.Agreement
import Emend.Proofs.Session.UnknownEnd
import Emend.Proofs.Edit.Overlap
import Emend.Proofs.Outline.Lineage
import Emend.Proofs.Session.Shared
import Emend.Proofs.Ledger.Spare
import Emend.Proofs.Session.Alike
import Emend.Proofs.Session.Refused
import Emend.Proofs.Compile.Insertions
import Emend.Proofs.Compile.Declaration
import Emend.Proofs.Outline.Nesting
import Emend.Proofs.Outline.Order
import Emend.Proofs.Outline.Spans
import Emend.Proofs.Document.Reassembly
import Emend.Proofs.Compile.Occurrences
import Emend.Proofs.Host.Storage
import Emend.Proofs.Outline.Dispatch
import Emend.Proofs.Metrics.Statistics
import Emend.Proofs.Session.Spelling
import Emend.Proofs.Edit.Layers
import Emend.Proofs.Document.Extent
import Emend.Proofs.Pattern.Plain
import Emend.Proofs.Outline.Fallback
import Emend.Proofs.Diff.Colours
