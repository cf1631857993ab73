import LinkedCharts.Group.Sync

/-!
# Live data for a group

What is asked for, and what is done with the answers. Nothing is drawn until all answers of a round
are in.

Models of `SeriesSlot` and `FetchRequest`, and of what `ViewportSyncController` does as a
`LiveTarget`.

Results:
* `Group.plan`: one request for every series that takes live data.
* `Group.apply`: the samples of one answer are offered to the series they belong to.
-/

namespace LinkedCharts

/-- The place of a series in a group. -/
structure Slot where
  chart : Nat
  series : Nat
deriving DecidableEq, Inhabited

namespace Slot

open Json

/-- The place as a record. -/
def toJson (s : Slot) : Value := .object [("viewport", .ofNat s.chart), ("series", .ofNat s.series)]

/-- A place from a record. -/
def ofTree? (t : Tree) : Option Slot :=
  let index := Tree.required (Tree.nat? Stats.bound)
  match t.fields? ["viewport", "series"] with
  | some [chart, series] => do some ⟨← index chart, ← index series⟩
  | _ => none

end Slot

/-- A request for the samples that a series does not hold yet. -/
structure Request where
  slot : Slot
  url : String
  /-- the time of the newest sample held -/
  since : Option Binary64
deriving DecidableEq, Inhabited

/-- The request for a series, if it takes live data. -/
def Series.request? (s : Series) (slot : Slot) : Option Request :=
  if s.IsPollable then s.url.map fun url => ⟨slot, url, s.lastTime?⟩ else none

namespace Group

variable {V : Type} [View V]

/-- One request for every series that takes live data, chart by chart. Models `plan_fetches`. -/
def plan (g : Group V) : List Request :=
  g.charts.zipIdx.flatMap fun (c, i) =>
    (View.series c).zipIdx.filterMap fun (s, k) => s.request? ⟨i, k⟩

/-- Offers the samples of an answer to their series, and returns how many were accepted. Models
    `apply_points`. -/
def apply (g : Group V) (slot : Slot) (samples : List Sample) : Group V × Except Fault Nat :=
  g.onChart slot.chart (View.appendAll · slot.series samples)

end Group

end LinkedCharts
