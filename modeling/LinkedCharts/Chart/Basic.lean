import LinkedCharts.Axis
import LinkedCharts.Chart.Scene

/-!
# Charts

A chart shows some series on one time axis. It has no axis until there is a sample. Drawing first
brings the axis in line with the data: an axis that shows all of its data goes on doing so when the
data grows, any other keeps its visible window.

Operations that can fail half-way return the chart that they leave beside their answer.

Models of `ChartViewport` and its functions, with moves that a host lets fail.

Results:
* `Chart.make?`: a chart over given series.
* `Chart.moveTo`: another visible window.
* `Chart.append`: a sample more in one of the series, without drawing.
* `Chart.redraw`: a drawing, and the visible window if it moved.
-/

namespace LinkedCharts

/-- A chart of some series on one time axis. -/
structure Chart where
  settings : ChartSettings
  /-- the axis, once there is data -/
  axis : Option Axis
  series : List Series
  /-- how often the chart was drawn -/
  redraws : Nat
  canvas : Canvas
  /-- the attempts to move the visible window from outside -/
  moves : Calls
  /-- the chart asks its group to keep windows at least as long as its own minimum -/
  limitsZoom : Bool
deriving DecidableEq, Inhabited

namespace Chart

/-! ## Reading -/

/-- The visible window, if there is an axis. Models `visible_range`. -/
def visible? (c : Chart) : Option Window := c.axis.map Axis.visible

/-- The window that the data covers, if there is an axis. Models `full_range`. -/
def full? (c : Chart) : Option Window := c.axis.map Axis.full

/-- The shortest window that a zoom may show on this chart. Models `min_range_ms`, which is zero for
    a `ChartView` that does not say otherwise. -/
def minimumSpan (c : Chart) : Binary64 := if c.limitsZoom then c.settings.minimumSpan else 0

/-! ## Making -/

/-- The axis that the data calls for: its extent, with the window of the initial preset visible.
    Models `initial_time_scale`. -/
def axisOfData? (settings : ChartSettings) (series : List Series) : Except Fault (Option Axis) := do
  let data := series.map fun s => s.samples.toList
  match ← extent? data with
  | none => return none
  | some _ =>
    let axis ← Axis.ofSamples? data settings.minimumSpan
    return some (axis.moveTo (settings.preset.resolve axis.full)).1

/-- A chart with checked settings on a fresh canvas. Models `ChartViewport.new`. -/
def make? (settings : ChartSettings) (series : List Series) (canvas : Canvas) (moves : Calls)
    (limitsZoom : Bool) : Except Fault Chart := do
  let settings ← settings.check
  let axis ← axisOfData? settings series
  return ⟨settings, axis, series, 0, canvas, moves, limitsZoom⟩

/-! ## Changing -/

/-- Makes another window visible, and says whether that is a move. Models `set_visible_range`. -/
def moveTo (c : Chart) (w : Window) : Chart × Except Fault Bool :=
  let c := { c with moves := c.moves.next }
  if c.moves.IsRefused then (c, .error (.invalidData (.moveRefused c.moves.made)))
  else
    match c.axis with
    | none => (c, .error .noTimeAxis)
    | some axis =>
      let (axis, moved) := axis.moveTo w
      ({ c with axis := some axis }, .ok moved)

/-- Offers a sample to one of the series, and says whether it was accepted. Models
    `append_point`. -/
def append (c : Chart) (index : Nat) (x : Sample) : Chart × Except Fault Bool :=
  match c.series[index]? with
  | none => (c, .error (.invalidData (.noSeries index c.series.length)))
  | some s => ({ c with series := c.series.set index (s.append x) }, .ok (s.Accepts x))

/-- The axis grown to the newest sample of every series, and whether it had to grow. Models the loop
    of `sync_axis_with_data`. -/
def growAxis? (axis : Axis) (grew : Bool) : List Series → Except Fault (Axis × Bool)
  | [] => .ok (axis, grew)
  | s :: rest =>
    match s.lastTime? with
    | none => growAxis? axis grew rest
    | some last => do
      let (axis, more) ← axis.growTo? last
      growAxis? axis (grew || more) rest

/-- The chart with its axis in line with its data, and the visible window if that is new. Models
    `sync_axis_with_data`. -/
def followData (c : Chart) : Chart × Except Fault (Option Window) :=
  match c.axis with
  | none =>
    match axisOfData? c.settings c.series with
    | .error f => (c, .error f)
    | .ok axis => ({ c with axis }, .ok (axis.map Axis.visible))
  | some axis =>
    match growAxis? axis false c.series with
    | .error f => (c, .error f)
    | .ok (grown, grew) =>
      let (after, moved) := if grew ∧ axis.ShowsAll then grown.showAll else (grown, false)
      ({ c with axis := some after }, .ok (if moved then some after.visible else none))

/-- The scene of a visible window: of every series the samples inside. Models `build_frame`. -/
def scene (c : Chart) (w : Window) : Scene :=
  ⟨c.settings.size, c.settings.title, w,
    c.series.map fun s => ⟨s.name, s.kind, Series.inWindow s.samples w⟩⟩

/-- Draws the chart, and returns the visible window if drawing moved it. A chart without an axis has
    nothing to draw. Models `redraw`. -/
def redraw (c : Chart) : Chart × Except Fault (Option Window) :=
  match c.followData with
  | (c, .error f) => (c, .error f)
  | (c, .ok moved) =>
    match c.axis with
    | none => (c, .ok none)
    | some axis =>
      match c.canvas.draw (c.scene axis.visible) with
      | (canvas, .error f) => ({ c with canvas }, .error f)
      | (canvas, .ok ()) => ({ c with canvas, redraws := c.redraws + 1 }, .ok moved)

end Chart

end LinkedCharts
