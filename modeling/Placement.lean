import Placement.Loader.Catalog
import Placement.Loader.Loops
import Placement.Service
import Placement.Report.Console
import Placement.Report.Plain
import Placement.Proofs.FirstFailure
import Placement.Proofs.RecursiveValidation
import Placement.Proofs.ParentSlots
import Placement.Proofs.PassingChecks
import Placement.Proofs.LegalPlacement
import Placement.Proofs.Faithful
import Placement.Proofs.LoneRequest
import Placement.Proofs.Screening
import Placement.Proofs.SingleFlight
import Placement.Proofs.SessionRuns
import Placement.Proofs.Cancellation
import Placement.Proofs.LinePlace
import Placement.Proofs.LocatedFailure
import Placement.Proofs.FrameLines
import Placement.Proofs.CaretColumns
import Placement.Proofs.Reoffset
import Placement.Proofs.LineEndings
import Placement.Proofs.LinesBefore
import Placement.Proofs.StoppingTurn
import Placement.Proofs.FewerChecks
import Placement.Proofs.TreeShape
import Placement.Proofs.ParentTree
import Placement.Proofs.SteadyImports
import Placement.Proofs.ServiceSteps
import Placement.Proofs.IndependentCalls
import Placement.Proofs.LineBreaks
import Placement.Proofs.LineTable
import Placement.Proofs.LinePieces
import Placement.Proofs.TriviaRun
import Placement.Proofs.NodeLocation
import Placement.Proofs.CorrelatedOnce
import Placement.Proofs.SharedNodes
import Placement.Proofs.OffendingModifier
import Placement.Proofs.MarkedColumns
import Placement.Proofs.SequentialCalls
import Placement.Proofs.PrintedText
import Placement.Proofs.EscapeSequences
import Placement.Proofs.PrintedColumns
import Placement.Proofs.DocumentOrder
