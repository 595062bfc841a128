import TitleFormatting.Diagnostic
import TitleFormatting.Formatter
import TitleFormatting.Lint
import TitleFormatting.Main
import TitleFormatting.DistinctOutputs
import TitleFormatting.TagFile
import TitleFormatting.Proofs.CommandLine.Agreement
import TitleFormatting.Proofs.Evaluation.Arguments
import TitleFormatting.Proofs.Evaluation.Blocks
import TitleFormatting.Proofs.Evaluation.Presence
import TitleFormatting.Proofs.Functions.Progress
import TitleFormatting.Proofs.Functions.Sums
import TitleFormatting.Proofs.Functions.ZeroPadding
import TitleFormatting.Proofs.Lint.Agreement
import TitleFormatting.Proofs.Lint.SourceOrder
import TitleFormatting.Proofs.Number.Rounding
import TitleFormatting.Proofs.TagFile.Carrying
import TitleFormatting.Proofs.Template.Blame
import TitleFormatting.Proofs.Template.Continuation
import TitleFormatting.Proofs.Template.Depth
import TitleFormatting.Proofs.CommandLine.FirstOutputs
import TitleFormatting.Proofs.Track.History
import TitleFormatting.Proofs.Text.ByteOrder
import TitleFormatting.Proofs.TagFile.Refusal
import TitleFormatting.Proofs.Text.Casing
import TitleFormatting.Proofs.Functions.Articles
import TitleFormatting.Proofs.Functions.Checksum
import TitleFormatting.Proofs.Functions.Padding
import TitleFormatting.Proofs.Functions.Paths
import TitleFormatting.Proofs.Functions.Searching
import TitleFormatting.Proofs.Functions.Slicing
import TitleFormatting.Proofs.Text.Repertoire
import TitleFormatting.Proofs.Track.Fallback
import TitleFormatting.Proofs.Suggestion
import TitleFormatting.Proofs.Functions.Comparison
import TitleFormatting.Proofs.Evaluation.Wrapping
