import VariantSudoku.Command.FileTree
import VariantSudoku.Document.Writer
import VariantSudoku.Main
import VariantSudoku.Proofs.Adjacency
import VariantSudoku.Proofs.CageTotals
import VariantSudoku.Proofs.Changes
import VariantSudoku.Proofs.Comments
import VariantSudoku.Proofs.DisjointGroups
import VariantSudoku.Proofs.Doublers
import VariantSudoku.Proofs.Endings
import VariantSudoku.Proofs.FaceValues
import VariantSudoku.Proofs.Freshness
import VariantSudoku.Proofs.Grammar
import VariantSudoku.Proofs.GridDocuments
import VariantSudoku.Proofs.Groups
import VariantSudoku.Proofs.Kinds
import VariantSudoku.Proofs.Layouts
import VariantSudoku.Proofs.Lines
import VariantSudoku.Proofs.Loops
import VariantSudoku.Proofs.MadeNames
import VariantSudoku.Proofs.Mirrored
import VariantSudoku.Proofs.Misfits
import VariantSudoku.Proofs.NegativeMarks
import VariantSudoku.Proofs.Negators
import VariantSudoku.Proofs.Parity
import VariantSudoku.Proofs.Permitted
import VariantSudoku.Proofs.Quadruples
import VariantSudoku.Proofs.Rays
import VariantSudoku.Proofs.Readability
import VariantSudoku.Proofs.RegionSums
import VariantSudoku.Proofs.Renban
import VariantSudoku.Proofs.Reordering
import VariantSudoku.Proofs.RoundTrip
import VariantSudoku.Proofs.Runs
import VariantSudoku.Proofs.SameMultisets
import VariantSudoku.Proofs.Supply
import VariantSudoku.Proofs.Totals
import VariantSudoku.Proofs.Views
