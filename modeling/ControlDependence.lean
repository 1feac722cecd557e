import ControlDependence.Config.Json
import ControlDependence.Main
import ControlDependence.Program.Listing
import ControlDependence.Report.Decode
import ControlDependence.Proofs.Avoidance
import ControlDependence.Proofs.BlockControl
import ControlDependence.Proofs.Climb
import ControlDependence.Proofs.Construction
import ControlDependence.Proofs.Contract
import ControlDependence.Proofs.ContractDecision
import ControlDependence.Proofs.Convergence
import ControlDependence.Proofs.Detour
import ControlDependence.Proofs.Exactness
import ControlDependence.Proofs.Exploration
import ControlDependence.Proofs.Fixpoint
import ControlDependence.Proofs.Forest
import ControlDependence.Proofs.Grounded
import ControlDependence.Proofs.ImmediatePostDominator
import ControlDependence.Proofs.Lowering
import ControlDependence.Proofs.Moments
import ControlDependence.Proofs.Path
import ControlDependence.Proofs.PathDefinition
import ControlDependence.Proofs.Placement
import ControlDependence.Proofs.Route
import ControlDependence.Proofs.Solution
import ControlDependence.Proofs.Trail
import ControlDependence.Proofs.Editing
import ControlDependence.Proofs.Schedule
import ControlDependence.Proofs.Isolation
import ControlDependence.Proofs.FailFast
import ControlDependence.Proofs.Settling
import ControlDependence.Proofs.Unresolved
import ControlDependence.Proofs.LoopFree
import ControlDependence.Proofs.EarlyStop
import ControlDependence.Proofs.Inverse
import ControlDependence.Proofs.Views
import ControlDependence.Proofs.Controllers
import ControlDependence.Proofs.BreadthFirst
import ControlDependence.Proofs.Lossless
import ControlDependence.Proofs.Accounting
import ControlDependence.Proofs.Diagnosis
import ControlDependence.Proofs.Classification
import ControlDependence.Proofs.LogLevel
import ControlDependence.Proofs.Coverage
import ControlDependence.Proofs.NearestCommon
import ControlDependence.Proofs.RecursiveVisit
import ControlDependence.Proofs.Outlets
import ControlDependence.Proofs.JsonReport
