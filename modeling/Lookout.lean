import Lookout.Frame
import Lookout.Decimal.Layout
import Lookout.Json.Printer
import Lookout.Json.Token
import Lookout.Json.Tree
import Lookout.Text.Quoted
import Lookout.Error
import Lookout.Message.Control
import Lookout.Result
import Lookout.Config.OfJson
import Lookout.Config.OfYaml
import Lookout.Link.Lifecycle
import Lookout.Stream.Table
import Lookout.Link.Step
import Lookout.System.Client
import Lookout.System.Device
import Lookout.Proofs.Link.Reconnect
import Lookout.Proofs.Link.Resources
import Lookout.Proofs.Link.Record
import Lookout.Proofs.Link.Ledger
import Lookout.Proofs.Link.SendOrder
import Lookout.Proofs.Link.Abandoned
import Lookout.Proofs.Link.Protocol
import Lookout.Proofs.Link.Retry
import Lookout.Proofs.Link.Restart
import Lookout.Proofs.Link.Hearing
import Lookout.Proofs.Stream.Inventory
import Lookout.Proofs.Stream.Sweeping
import Lookout.Proofs.Stream.Isolation
import Lookout.Proofs.Stream.Sessions
import Lookout.Proofs.Stream.Nearest
import Lookout.Proofs.Stream.Lifetime
import Lookout.Proofs.Stream.ShowOrder
import Lookout.Proofs.System.Delivery
import Lookout.Proofs.System.Notices
import Lookout.Proofs.System.Attendance
import Lookout.Proofs.System.Display
import Lookout.Proofs.System.Loops
import Lookout.Proofs.System.Inbound
import Lookout.Proofs.System.Starting
import Lookout.Proofs.System.Pace
import Lookout.Proofs.System.Draining
import Lookout.Proofs.Message.Results
import Lookout.Proofs.Message.Frames
import Lookout.Proofs.Message.Boxes
import Lookout.Proofs.Message.Controls
import Lookout.Proofs.Stream.RateControl
import Lookout.Proofs.System.Metrics
import Lookout.Proofs.System.Shutdown
