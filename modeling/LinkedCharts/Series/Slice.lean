import LinkedCharts.Series
import LinkedCharts.Window

/-!
# The samples inside a window

Samples in ascending order are cut to a window by two binary searches, one for the first sample that
is not before the window and one for the first that is after it.

Model of `points_in_time_window`.

Results:
* `partitionPoint`: where the samples that satisfy a condition end, if they all come first.
* `inWindow`: the samples inside a window.
-/

namespace LinkedCharts.Series

/-- Halves the stretch from `lo` to `hi` until the first index whose sample fails `p` is found,
    given that the samples that satisfy it come first. -/
def partitionFrom (p : Sample → Bool) (samples : Array Sample) (lo hi : Nat) : Nat :=
  if lo < hi then
    let mid := (lo + hi) / 2
    match samples[mid]? with
    | some x => if p x then partitionFrom p samples (mid + 1) hi else partitionFrom p samples lo mid
    | none => partitionFrom p samples lo mid
  else lo
termination_by hi - lo
decreasing_by all_goals omega

/-- The index where the samples that satisfy `p` end, given that they come first. Models the
    `partition_point` of slices. -/
def partitionPoint (p : Sample → Bool) (samples : Array Sample) : Nat :=
  partitionFrom p samples 0 samples.size

/-- The samples whose time lies in the window, its ends included. Models `points_in_time_window`. -/
def inWindow (samples : Array Sample) (w : Window) : Array Sample :=
  let start := partitionPoint (fun x => x.time < w.lo) samples
  let stop := partitionPoint (fun x => x.time ≤ w.hi) samples
  samples.extract start stop

end LinkedCharts.Series
