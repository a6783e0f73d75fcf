import SourcePrologue.Main
import SourcePrologue.Proofs.Command.Conversion
import SourcePrologue.Proofs.Source.Documentation
import SourcePrologue.Proofs.Text.Lines
import SourcePrologue.Proofs.Source.Bytes
import SourcePrologue.Proofs.Convention.Passages
import SourcePrologue.Proofs.Source.Account
import SourcePrologue.Proofs.Source.LegacyDocumentation
import SourcePrologue.Proofs.Command.Licensing
import SourcePrologue.Proofs.Prologue.Credit
import SourcePrologue.Proofs.Prologue.Layout
import SourcePrologue.Proofs.Source.Calls
import SourcePrologue.Proofs.Source.Indentation
import SourcePrologue.Proofs.Copyright.Lines
import SourcePrologue.Proofs.Prologue.Blank
import SourcePrologue.Proofs.Prologue.Completion
import SourcePrologue.Proofs.Prologue.History
import SourcePrologue.Proofs.Source.Margin
import SourcePrologue.Proofs.Text.Capitals
import SourcePrologue.Proofs.Section.Settled
import SourcePrologue.Proofs.Convention.Moves
import SourcePrologue.Proofs.Source.Settling
import SourcePrologue.Proofs.Copyright.YearText
import SourcePrologue.Proofs.Source.StartLines
import SourcePrologue.Proofs.Prologue.Ledger
