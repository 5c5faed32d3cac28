import WindowTiling.Main
import WindowTiling.Service.Drag
import WindowTiling.Service.Registry
import WindowTiling.Proofs.FillRounds
import WindowTiling.Proofs.Reconciliation
import WindowTiling.Proofs.Registry
import WindowTiling.Proofs.ScreenLayout
import WindowTiling.Proofs.PassOutcome
import WindowTiling.Proofs.Containment
import WindowTiling.Proofs.ResizedBox
import WindowTiling.Proofs.Growth
import WindowTiling.Proofs.Clearance
import WindowTiling.Proofs.TranslatedPass
import WindowTiling.Proofs.Independence
import WindowTiling.Proofs.History
import WindowTiling.Proofs.CleanScreen
import WindowTiling.Proofs.PassFrame
import WindowTiling.Proofs.PassFaults
import WindowTiling.Proofs.CrampedGrids
import WindowTiling.Proofs.Settling
import WindowTiling.Proofs.Runs
import WindowTiling.Proofs.SmartTarget
import WindowTiling.Proofs.TargetRegistered
import WindowTiling.Proofs.FreshGrids
import WindowTiling.Proofs.DraggedTarget
import WindowTiling.Proofs.OutputsRegistered
import WindowTiling.Proofs.CommandRuns
import WindowTiling.Proofs.Pairing
import WindowTiling.Proofs.FillSettling
import WindowTiling.Proofs.GridRows
import WindowTiling.Proofs.Bookkeeping
import WindowTiling.Proofs.EventRecord
import WindowTiling.Proofs.Accounts
import WindowTiling.Proofs.FillOverlap
import WindowTiling.Proofs.ReplyFrames
import WindowTiling.Proofs.PointerDrags
import WindowTiling.Proofs.Overrides
import WindowTiling.Proofs.RuleResolution
import WindowTiling.Proofs.Clamping
