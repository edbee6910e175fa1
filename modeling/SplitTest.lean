import SplitTest.Hook.Visit
import SplitTest.Main
import SplitTest.Proofs.Host.Batch
import SplitTest.Proofs.Hook.OneVariant
import SplitTest.Proofs.Hook.SessionMemory
import SplitTest.Proofs.Shares
import SplitTest.Proofs.Store.Refinement
import SplitTest.Proofs.Hook.Work
import SplitTest.Proofs.Hook.HeldKeys
import SplitTest.Proofs.Hook.Steering
import SplitTest.Proofs.Hook.OncePerRequest
import SplitTest.Proofs.Hook.SessionReplay
import SplitTest.Proofs.Hook.AdminImmunity
import SplitTest.Proofs.Hook.DevicePlacement
import SplitTest.Proofs.Hook.Isolation
import SplitTest.Proofs.Store.Intact
import SplitTest.Proofs.Store.Refusals
import SplitTest.Proofs.Store.AuditTrail
import SplitTest.Proofs.Store.FileEntry
import SplitTest.Proofs.Host.Channel
import SplitTest.Proofs.Host.Precedence
import SplitTest.Proofs.Hook.Repetition
import SplitTest.Proofs.Hook.Accounting
import SplitTest.Proofs.Net.Interval
import SplitTest.Proofs.Net.GroupBeginning
import SplitTest.Proofs.Net.Union
import SplitTest.Proofs.Hook.Rendering
import SplitTest.Proofs.Report.Placement
import SplitTest.Proofs.Report.Check
import SplitTest.Proofs.Store.Loading
import SplitTest.Proofs.DatasetFile
import SplitTest.Proofs.Store.Decoding
import SplitTest.Proofs.Hook.EnvOverride
import SplitTest.Proofs.Report.Distribution
import SplitTest.Proofs.Store.Resaving
import SplitTest.Proofs.Host.Scripts
