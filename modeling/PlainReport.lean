import PlainReport.Main
import PlainReport.Proofs.Geometry
import PlainReport.Proofs.Loading
import PlainReport.Proofs.Partition
import PlainReport.Proofs.Pattern.RoundTrip
import PlainReport.Proofs.Stages
import PlainReport.Proofs.Letter.Dividing
import PlainReport.Proofs.Letter.Substitution
import PlainReport.Proofs.GroupedSelection
import PlainReport.Proofs.KeyCells
import PlainReport.Proofs.Pattern.Columns
import PlainReport.Proofs.Pattern.WellFormed
import PlainReport.Proofs.Text.Pieces
import PlainReport.Proofs.Pattern.Accepted
import PlainReport.Proofs.Pattern.Segments
import PlainReport.Proofs.Pattern.Rejected
import PlainReport.Proofs.Text.Capitals
import PlainReport.Proofs.ReportLines
import PlainReport.Proofs.SuppliedColumns
import PlainReport.Proofs.Pattern.Blocks
import PlainReport.Proofs.Pattern.IntegerConditions
import PlainReport.Proofs.Letter.Consumed
import PlainReport.Proofs.Letter.Recognized
import PlainReport.Proofs.Letter.Leftover
import PlainReport.Proofs.Origins
import PlainReport.Proofs.LineEndings
import PlainReport.Proofs.UsedCells
import PlainReport.Proofs.WrittenTables
import PlainReport.Proofs.Command.Outputs
import PlainReport.Proofs.Command.Runs
import PlainReport.Proofs.IntegerSums
import PlainReport.Proofs.Conjunction
import PlainReport.Proofs.Pattern.ConditionGrammar
import PlainReport.Proofs.Pattern.GroupGrammar
import PlainReport.Proofs.Letter.SharedLayouts
import PlainReport.Proofs.Letter.OmittedParts
import PlainReport.Proofs.FirstFault
import PlainReport.Proofs.CastNotices
import PlainReport.Proofs.Letter.Escaping
import PlainReport.Proofs.Pattern.WrittenBlocks
import PlainReport.Proofs.CastTwice
import PlainReport.Proofs.FittedLines
import PlainReport.Proofs.Text.CursorRuns
import PlainReport.Proofs.OrderedMaps
