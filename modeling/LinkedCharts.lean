import LinkedCharts.Board
import LinkedCharts.Http.Metrics
import LinkedCharts.Poll.Poller
import LinkedCharts.Proofs.Group.Coherence
import LinkedCharts.Proofs.Group.Windows
import LinkedCharts.Proofs.Group.Alike
import LinkedCharts.Proofs.Poll.Incremental
import LinkedCharts.Proofs.Window.Widening
import LinkedCharts.Proofs.Series.Ascending
import LinkedCharts.Proofs.Series.Slice
import LinkedCharts.Proofs.Axis.Hull
import LinkedCharts.Proofs.Chart.Coverage
import LinkedCharts.Proofs.Chart.Drawing
import LinkedCharts.Proofs.History.Zipper
import LinkedCharts.Proofs.History.Codec
import LinkedCharts.Proofs.Board.Entries
import LinkedCharts.Proofs.Board.Routing
import LinkedCharts.Proofs.Board.Isolation
import LinkedCharts.Proofs.Json.RoundTrip
import LinkedCharts.Proofs.Group.Following
import LinkedCharts.Proofs.Group.Notices
import LinkedCharts.Proofs.Group.Retry
import LinkedCharts.Proofs.Board.Rejection
import LinkedCharts.Proofs.Group.Rejection
import LinkedCharts.Proofs.Poll.Settling
import LinkedCharts.Proofs.Preset
import LinkedCharts.Proofs.Series.Maxima
import LinkedCharts.Proofs.Series.Reachable
import LinkedCharts.Proofs.Group.Batch
import LinkedCharts.Proofs.Poll.Accounting
import LinkedCharts.Proofs.Poll.Loop
import LinkedCharts.Proofs.Http.Request
import LinkedCharts.Proofs.Group.Rest
import LinkedCharts.Proofs.Group.Addressed
