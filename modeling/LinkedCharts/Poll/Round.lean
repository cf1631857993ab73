import LinkedCharts.Group.Feed
import LinkedCharts.Group.Shared

/-!
# A round of polling

A round asks for new samples of every series that takes live data, waits until all answers are in or
the timeout has passed, offers the samples to their series and draws the group once. The lock of the
group is held while planning and while finishing, not in between.

Models of `TickReport`, and of the second half of `tick` of `LivePointFeeder`.

Results:
* `TickReport`: what came of a round.
* `settleAll`: the answers that came in are applied.
* `Group.finishRound`: the second half of a round.
-/

namespace LinkedCharts

/-- What came of a round. -/
structure TickReport where
  /-- requests made -/
  issued : Nat
  /-- answers that came in -/
  completed : Nat
  /-- answers that were failures -/
  failed : Nat
  /-- samples that were accepted -/
  appended : Nat
  /-- the timeout passed before all answers were in -/
  timedOut : Bool
deriving DecidableEq, Inhabited

namespace TickReport

open Json

/-- The report as a record. -/
def toJson (r : TickReport) : Value :=
  .object [("issued", .ofNat r.issued), ("completed", .ofNat r.completed),
    ("failed", .ofNat r.failed), ("appended", .ofNat r.appended), ("timed_out", .bool r.timedOut)]

/-- A report from a record of all five fields. -/
def ofTree? (t : Tree) : Option TickReport :=
  let count := Tree.required (Tree.nat? Stats.bound)
  match t.fields? ["issued", "completed", "failed", "appended", "timed_out"] with
  | some [issued, completed, failed, appended, timedOut] => do
    some ⟨← count issued, ← count completed, ← count failed, ← count appended,
      ← Tree.required Tree.bool? timedOut⟩
  | _ => none

end TickReport

/-- An answer to a request. -/
abbrev Settled := Request × Except Fault (List Sample)

/-- Applies answers in order and adds them to a report. A failed fetch counts; a fault of the group
    itself ends the round. Models the loop over settled fetches in `tick`. -/
def settleAll (g : Group) (report : TickReport) : List Settled → Group × Except Fault TickReport
  | [] => (g, .ok report)
  | (request, result) :: rest =>
    let report := { report with completed := report.completed + 1 }
    match result with
    | .error _ => settleAll g { report with failed := report.failed + 1 } rest
    | .ok samples =>
      match g.apply request.slot samples with
      | (g, .error f) => (g, .error f)
      | (g, .ok kept) => settleAll g { report with appended := report.appended + kept } rest

/-- The second half of a round: the answers are applied, and then the group is drawn once. Models
    `tick` from its second lock on, with `coalesced_redraw`. -/
def Group.finishRound (g : Group) (issued : Nat) (timedOut : Bool) (settled : List Settled) :
    Group × Except Fault TickReport :=
  match settleAll g ⟨issued, 0, 0, 0, timedOut⟩ settled with
  | (g, .error f) => (g, .error f)
  | (g, .ok report) =>
    match g.redraw with
    | (g, .error f) => (g, .error f)
    | (g, .ok ()) => (g, .ok report)

end LinkedCharts
