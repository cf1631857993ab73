import LinkedCharts.Chart.View
import LinkedCharts.GroupId

/-!
# Chart groups

A group is a list of charts, or of other views, that show the same window. This module has its parts
and how it is made; `LinkedCharts.Group.Sync` has what keeps the charts together.

Models of `ViewportSyncController`, `SyncStats` and `RangeChangeOutcome`.
-/

namespace LinkedCharts

/-- What a group has done so far. -/
structure Stats where
  /-- windows recorded in the history -/
  pushes : Nat
  /-- moves recognised as caused by the group itself -/
  echoes : Nat
  /-- windows restored from the history -/
  navigations : Nat
  /-- times that all charts were drawn -/
  passes : Nat
deriving DecidableEq, Inhabited

namespace Stats

/-- Nothing done yet. -/
def none : Stats := ⟨0, 0, 0, 0⟩

open Json

/-- Counters in JSON are below this. -/
def bound : Nat := 2 ^ (64 : Nat)

/-- The counters as a record. -/
def toJson (s : Stats) : Value :=
  .object [("history_pushes", .ofNat s.pushes), ("suppressed_echoes", .ofNat s.echoes),
    ("navigations_applied", .ofNat s.navigations), ("redraw_passes", .ofNat s.passes)]

/-- Counters from a record of all four. -/
def ofTree? (t : Tree) : Option Stats :=
  let count := Tree.required (Tree.nat? bound)
  let names := ["history_pushes", "suppressed_echoes", "navigations_applied", "redraw_passes"]
  match t.fields? names with
  | some [pushes, echoes, navigations, passes] => do
    some ⟨← count pushes, ← count echoes, ← count navigations, ← count passes⟩
  | _ => Option.none

end Stats

/-- What became of a window that a chart reported. -/
inductive Outcome
  /-- recorded, and shown on this many other charts that did not show it before -/
  | broadcast (moved : Nat)
  /-- an echo of the group's own doing -/
  | suppressed
deriving DecidableEq, Inhabited

namespace Outcome

open Json

/-- The outcome as a variant, with its count as content if it has one. -/
def toJson : Outcome → Value
  | .broadcast moved => .object [("Broadcast", .object [("propagated", .ofNat moved)])]
  | .suppressed => .string "Suppressed"

/-- An outcome from a variant. -/
def ofTree? (t : Tree) : Option Outcome :=
  match t.variant? with
  | some ("Broadcast", some content) =>
    match content.fields? ["propagated"] with
    | some [moved] => (Tree.required (Tree.nat? Stats.bound) moved).map .broadcast
    | _ => none
  | some ("Suppressed", none) | some ("Suppressed", some .null) => some .suppressed
  | _ => none

end Outcome

/-- A group of charts that show the same window. -/
structure Group (V : Type := Chart) where
  id : GroupId
  charts : List V
  /-- a synchronization step is under way, so that moves of the charts are echoes of it -/
  suppressed : Bool
  /-- the shortest window that a zoom may show on this group -/
  minimumSpan : Binary64
  stats : Stats
deriving DecidableEq, Inhabited

namespace Group

variable {V : Type}

/-- A group over at least one chart. Models `ViewportSyncController.new`. -/
def make? (id : GroupId) (charts : List V) : Except Fault (Group V) :=
  if charts.isEmpty then .error (.invalidData (.noCharts id.text))
  else .ok ⟨id, charts, false, 1, .none⟩

/-- The group with another shortest window. Models `with_min_range_ms`. -/
def withMinimumSpan? (g : Group V) (minimum : Binary64) : Except Fault (Group V) :=
  if IsMinimumSpan minimum then .ok { g with minimumSpan := minimum }
  else .error (.invalidData .minimumSpan)

/-- The fault of addressing a chart that the group does not have. Models the error of
    `check_index`. -/
def missing (g : Group V) (index : Nat) : Fault := .unknownChart g.id.text index g.charts.length

/-- The chart at an index. Models `viewport`. -/
def chart? (g : Group V) (index : Nat) : Except Fault V :=
  match g.charts[index]? with
  | some c => .ok c
  | none => .error (g.missing index)

/-- Lets one chart act, and puts it back. Models a call on `viewport_mut`. -/
def onChart {α : Type} (g : Group V) (index : Nat) (act : V → V × Except Fault α) :
    Group V × Except Fault α :=
  match g.charts[index]? with
  | none => (g, .error (g.missing index))
  | some c =>
    let (c, answer) := act c
    ({ g with charts := g.charts.set index c }, answer)

variable [View V]

/-- The window that the group shows: that of its first chart. Models `shared_range`. -/
def shared? (g : Group V) : Option Window := g.charts.head?.bind View.visible?

/-- The shortest window that a zoom may show: the largest of the minima of the group and its charts.
    Models `effective_min_range_ms`. -/
def effectiveMinimum (g : Group V) : Binary64 :=
  (g.charts.map View.minimumSpan).foldl Binary64.max g.minimumSpan

end Group

end LinkedCharts
