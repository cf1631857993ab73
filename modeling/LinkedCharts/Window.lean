import LinkedCharts.Binary64.Arithmetic
import LinkedCharts.Fault
import LinkedCharts.Json.Record

/-!
# Windows on the time axis

A window has two ends, times in milliseconds. `Window.make?` is the only check: both ends finite and
in order. Widening and joining compute new ends without it, so what they return can lie outside the
finite numbers when its ends do.

Models of `TimeRange` and its functions.

Results:
* `Window.WellFormed`: both ends are finite and in order.
* `Window.make?`: the window between two times, if it is well formed.
* `Window.widenedTo`, `Window.union`, `Window.contains`, `Window.near`: the operations on windows.
-/

namespace LinkedCharts

/-- A window on the time axis. -/
structure Window where
  lo : Binary64
  hi : Binary64
deriving DecidableEq, Inhabited

namespace Window

/-- Both ends are finite and the first is not after the second. -/
def WellFormed (w : Window) : Prop := w.lo.isFinite ∧ w.hi.isFinite ∧ w.lo ≤ w.hi

instance (w : Window) : Decidable w.WellFormed := inferInstanceAs (Decidable (_ ∧ _ ∧ _))

/-- The window between two times. Models `TimeRange.new`. -/
def make? (lo hi : Binary64) : Except Fault Window :=
  if (Window.mk lo hi).WellFormed then .ok ⟨lo, hi⟩ else .error (.invalidWindow lo hi)

/-- The window between two times in either order. Models `from_unordered`. -/
def between? (a b : Binary64) : Except Fault Window := make? (a.min b) (a.max b)

/-- The length of the window. Models `span`. -/
def span (w : Window) : Binary64 := w.hi - w.lo

/-- The time lies in the window, its ends included. Models `contains`. -/
def Contains (w : Window) (t : Binary64) : Prop := w.lo ≤ t ∧ t ≤ w.hi

instance (w : Window) (t : Binary64) : Decidable (w.Contains t) :=
  inferInstanceAs (Decidable (_ ∧ _))

/-- The two windows have equal ends. Models the derived equality. -/
def Same (v w : Window) : Prop := v.lo.Same w.lo ∧ v.hi.Same w.hi

instance (v w : Window) : Decidable (v.Same w) := inferInstanceAs (Decidable (_ ∧ _))

/-- The window, widened around its centre if it is shorter than a finite `minimum`. Models
    `widened_to`. -/
def widenedTo (w : Window) (minimum : Binary64) : Window :=
  if !minimum.isFinite ∨ minimum ≤ w.span then w
  else
    let centre := w.lo + w.span.half
    ⟨centre - minimum.half, centre + minimum.half⟩

/-- The smallest window that covers both. Models `union`. -/
def union (v w : Window) : Window := ⟨v.lo.min w.lo, v.hi.max w.hi⟩

/-- Each end of one window is within `tolerance` of the same end of the other. Models
    `approx_eq`. -/
def Near (v w : Window) (tolerance : Binary64) : Prop :=
  (v.lo - w.lo).abs ≤ tolerance ∧ (v.hi - w.hi).abs ≤ tolerance

instance (v w : Window) (tolerance : Binary64) : Decidable (v.Near w tolerance) :=
  inferInstanceAs (Decidable (_ ∧ _))

/-! ## JSON -/

open Json

/-- A window as a record of its two ends. -/
def toJson (w : Window) : Value := .object [("min", .real w.lo), ("max", .real w.hi)]

/-- A well-formed window from a record of its two ends. -/
def ofTree? (t : Tree) : Option Window :=
  match t.fields? ["min", "max"] with
  | some [lo, hi] => do
    (make? (← Tree.required Tree.real? lo) (← Tree.required Tree.real? hi)).toOption
  | _ => none

end Window

end LinkedCharts
