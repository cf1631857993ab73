import LinkedCharts.Chart.Basic

/-!
# What a group needs of a chart

A group keeps views together: anything with a window on a time axis, some series and a way to be
drawn. `Chart` is one kind of view; a host brings others, whose moves and drawings can fail as they
like and leave whatever they leave.

Models of `ChartView`, and of `ChartViewport` as an instance of it.

Results:
* `View`: what a group asks of a view.
* `View.appendAll`: samples offered to a series of a view, in order.
-/

namespace LinkedCharts

/-- What can be kept in a group. Models `ChartView`; in the order of the fields its functions are
    `visible_range`, `full_range`, `set_visible_range`, `series`, `min_range_ms`, `append_point` and
    `redraw`. -/
class View (V : Type) where
  /-- the visible window, if there is an axis -/
  visible? : V → Option Window
  /-- the window that the data covers, if there is an axis -/
  full? : V → Option Window
  /-- makes another window visible, and says whether that is a move -/
  moveTo : V → Window → V × Except Fault Bool
  /-- the series shown -/
  series : V → List Series
  /-- the shortest window that a zoom may show on this view -/
  minimumSpan : V → Binary64
  /-- offers a sample to one of the series, and says whether it was accepted -/
  append : V → Nat → Sample → V × Except Fault Bool
  /-- draws the view, and returns the visible window if drawing moved it -/
  redraw : V → V × Except Fault (Option Window)

instance : View Chart where
  visible? := Chart.visible?
  full? := Chart.full?
  moveTo := Chart.moveTo
  series := Chart.series
  minimumSpan := Chart.minimumSpan
  append := Chart.append
  redraw := Chart.redraw

namespace View

/-- Offers samples to a series of a view in order, and returns how many were accepted. Models the
    loop of `apply_points`. -/
def appendAll {V : Type} [View V] (v : V) (index : Nat) : List Sample → V × Except Fault Nat
  | [] => (v, .ok 0)
  | x :: rest =>
    match append v index x with
    | (v, .error f) => (v, .error f)
    | (v, .ok kept) =>
      let (v, more) := appendAll v index rest
      (v, more.map (· + if kept then 1 else 0))

/-! ## Charts as views -/

variable (c : Chart)

@[simp] theorem visible?_chart : visible? c = c.visible? := rfl

@[simp] theorem full?_chart : full? c = c.full? := rfl

@[simp] theorem moveTo_chart (w : Window) : moveTo c w = c.moveTo w := rfl

@[simp] theorem series_chart : series c = c.series := rfl

@[simp] theorem minimumSpan_chart : minimumSpan c = c.minimumSpan := rfl

@[simp] theorem append_chart (index : Nat) (x : Sample) : append c index x = c.append index x := rfl

@[simp] theorem redraw_chart : redraw c = c.redraw := rfl

end View

end LinkedCharts
