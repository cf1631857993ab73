import LinkedCharts.Series
import LinkedCharts.Window

/-!
# The time axis of a chart

An axis knows the full window that its data covers and the window that is visible. The full window
grows with the data; the visible one moves when it is told to.

Models of `data_extent`, and of `TimeScale` and its functions.

Results:
* `extent?`: the smallest window that covers all samples of a list of series.
* `Axis.ofSamples?`: an axis over the extent of the data, no shorter than a minimum.
* `Axis.moveTo`, `Axis.showAll`: move the visible window, and say whether it moved.
* `Axis.growTo?`: the full window grows to cover a time.
-/

namespace LinkedCharts

/-! ## Extent -/

/-- The least and the greatest time so far, widened by the times of more samples. Models the loop of
    `data_extent`. -/
def extentFrom (ends : Binary64 × Binary64) : List Sample → Except Fault (Binary64 × Binary64)
  | [] => .ok ends
  | x :: rest =>
    if x.time.isFinite then extentFrom (ends.1.min x.time, ends.2.max x.time) rest
    else .error (.invalidData .nonFiniteTime)

/-- The smallest window that covers all samples, `none` if there are no samples. A time that is not
    finite is refused. Models `data_extent`. -/
def extent? (series : List (List Sample)) : Except Fault (Option Window) := do
  let (lo, hi) ← extentFrom (.infinite false, .infinite true) series.flatten
  if hi < lo then return none else return some (← Window.make? lo hi)

/-! ## Axis -/

/-- A time axis. -/
structure Axis where
  /-- what the data covers -/
  full : Window
  /-- what is shown -/
  visible : Window
deriving DecidableEq, Inhabited

namespace Axis

/-- An axis between two times in either order that shows all of itself. Models `TimeScale.new`. -/
def make? (a b : Binary64) : Except Fault Axis := do
  let w ← Window.between? a b
  return ⟨w, w⟩

/-- An axis over the extent of the samples, widened to `minimum`, that shows all of itself. Models
    `from_series_points`. -/
def ofSamples? (series : List (List Sample)) (minimum : Binary64) : Except Fault Axis := do
  match ← extent? series with
  | some w => return ⟨w.widenedTo minimum, w.widenedTo minimum⟩
  | none => throw (.invalidData .emptyAxis)

/-- Distance up to which the ends of the two windows count as equal. -/
def tolerance : Binary64 := 1 / 1000000000

/-- All of the full window is visible. Models `shows_full_range`. -/
def ShowsAll (a : Axis) : Prop := a.visible.Near a.full tolerance

instance (a : Axis) : Decidable a.ShowsAll := inferInstanceAs (Decidable (Window.Near _ _ _))

/-- The axis with another visible window, and whether that is a move. Models `set_visible_range`. -/
def moveTo (a : Axis) (w : Window) : Axis × Bool :=
  if a.visible.Same w then (a, false) else ({ a with visible := w }, true)

/-- The axis with all of its full window visible, and whether that is a move. Models
    `reset_visible_range_to_full`. -/
def showAll (a : Axis) : Axis × Bool := a.moveTo a.full

/-- The axis with a full window that covers a finite time, and whether it had to grow. Models
    `extend_full_to`. -/
def growTo? (a : Axis) (time : Binary64) : Except Fault (Axis × Bool) :=
  if ¬ time.isFinite then .error (.invalidData .nonFiniteTime)
  else if a.full.Contains time then .ok (a, false)
  else do
    let point ← Window.make? time time
    return ({ a with full := a.full.union point }, true)

/-! ## JSON -/

open Json

/-- The axis as a record of its two windows. -/
def toJson (a : Axis) : Value := .object [("full", a.full.toJson), ("visible", a.visible.toJson)]

/-- An axis from a record of two windows; how they lie to each other does not matter. -/
def ofTree? (t : Tree) : Option Axis :=
  match t.fields? ["full", "visible"] with
  | some [full, visible] => do
    some ⟨← Tree.required Window.ofTree? full, ← Tree.required Window.ofTree? visible⟩
  | _ => none

end Axis

end LinkedCharts
