import LinkedCharts.Group.Basic
import LinkedCharts.History.Recorder

/-!
# Keeping the charts of a group together

A window that a user chooses on one chart is recorded in the history and shown on all others. The
moves that this causes are reported to the group like any other, and so are those of a redraw or of
a window restored from the history; a flag that stands while such a step is under way tells these
echoes from what users do.

A step stops at the first chart that fails. The charts before it have changed, those after it have
not, and the flag is as it was.

Models of the functions of `ViewportSyncController`, with `SuppressionGate` as the flag.

Results:
* `Group.anchor`: the window of a group becomes the base of its history.
* `Group.notify`: what a group does about a window that a chart reports.
* `Group.spread`: a window is shown on the charts of a group.
* `Group.userSet`, `Group.select`: a user chooses a window, or a preset.
* `Group.navigated`: the history has come to a state.
* `Group.redraw`: all charts are drawn once.
-/

namespace LinkedCharts

open Json

/-- One window recorded. -/
def Stats.countPush (s : Stats) : Stats := { s with pushes := s.pushes + 1 }

/-- One echo heard. -/
def Stats.countEcho (s : Stats) : Stats := { s with echoes := s.echoes + 1 }

/-- One window restored. -/
def Stats.countNavigation (s : Stats) : Stats := { s with navigations := s.navigations + 1 }

/-- One drawing of all charts. -/
def Stats.countPass (s : Stats) : Stats := { s with passes := s.passes + 1 }

/-- What a group does about a window that one of its charts reports. -/
abbrev Report (V H : Type) : Type :=
  Group V → H → Nat → Window → Group V × H × Except Fault Outcome

namespace Group

variable {V H : Type}

/-! ## Steps without echoes -/

/-- Runs a step with echoes suppressed, and then puts the flag back. Models `suppressed`. -/
def whileSuppressed {α : Type} (g : Group V) (h : H)
    (step : Group V → H → Group V × H × Except Fault α) : Group V × H × Except Fault α :=
  let (after, h, answer) := step { g with suppressed := true } h
  ({ after with suppressed := g.suppressed }, h, answer)

/-- Lets the charts at some indexes act in order until one fails. A chart says where it moved to, if
    it moved, and that is reported to the group. Returns how many moved. Models the loops of
    `apply_range_suppressed` and `redraw_suppressed`. -/
def sweep (report : Report V H) (act : Nat → V → V × Except Fault (Option Window)) :
    List Nat → Group V → H → Group V × H × Except Fault Nat
  | [], g, h => (g, h, .ok 0)
  | index :: rest, g, h =>
    match g.onChart index (act index) with
    | (g, .error f) => (g, h, .error f)
    | (g, .ok none) => sweep report act rest g h
    | (g, .ok (some w)) =>
      match report g h index w with
      | (g, h, .error f) => (g, h, .error f)
      | (g, h, .ok _) =>
        let (g, h, moved) := sweep report act rest g h
        (g, h, moved.map (· + 1))

/-- Lets all charts act with echoes suppressed, and returns how many moved. -/
def sweepAll (report : Report V H) (act : Nat → V → V × Except Fault (Option Window))
    (g : Group V) (h : H) : Group V × H × Except Fault Nat :=
  g.whileSuppressed h fun g h => sweep report act (List.range g.charts.length) g h

variable [View V] [Recorder H]

/-- One chart follows a window, unless it is the one that the window comes from. A chart without an
    axis is passed over. Models what `apply_range_suppressed` does with one viewport. -/
def follow (w : Window) (origin : Option Nat) (index : Nat) (c : V) :
    V × Except Fault (Option Window) :=
  if origin = some index then (c, .ok none)
  else
    match View.moveTo c w with
    | (c, .ok true) => (c, .ok (some w))
    | (c, .ok false) => (c, .ok none)
    | (c, .error .noTimeAxis) => (c, .ok none)
    | (c, .error f) => (c, .error f)

/-! ## Reports -/

/-- A chart reports a window. An echo is counted; anything else is recorded and shown on the other
    charts, which report in turn. Reports nest `depth` deep here; those inside a report are echoes
    and nest no further, so that two levels are enough (`Group.notify_eq`). -/
def notifyWithin : (depth : Nat) → Report V H
  | 0, g, h, _, _ => (g, h, .ok .suppressed)
  | depth + 1, g, h, origin, w =>
    if g.charts.length ≤ origin then (g, h, .error (g.missing origin))
    else if g.suppressed then ({ g with stats := g.stats.countEcho }, h, .ok .suppressed)
    else
      match Recorder.push h ⟨g.id, w⟩ with
      | (h, .error f) => (g, h, .error f)
      | (h, .ok ()) =>
        let (g, h, moved) := sweepAll (notifyWithin depth) (follow w (some origin))
          { g with stats := g.stats.countPush } h
        (g, h, moved.map .broadcast)

/-- A chart reports a window. Models `on_range_changed`. -/
def notify : Report V H := notifyWithin 2

/-- Shows a window on all charts but the one it comes from, and returns how many moved. Models
    `apply_range_suppressed`. -/
def spread (g : Group V) (h : H) (w : Window) (origin : Option Nat) :
    Group V × H × Except Fault Nat :=
  sweepAll notify (follow w origin) g h

/-! ## History -/

/-- Writes the window that the group shows over the current state of the history, so that it is the
    base that navigation comes back to. A group whose first chart has no axis writes nothing. Models
    `initialize`. -/
def anchor (g : Group V) (h : H) : H × Except Fault Bool :=
  match g.shared? with
  | none => (h, .ok false)
  | some w =>
    match Recorder.replace h ⟨g.id, w⟩ with
    | (h, .error f) => (h, .error f)
    | (h, .ok ()) => (h, .ok true)

/-- The history has come to a state. The group shows the window of an entry of its own, and says
    whether there was one. Models `on_history_navigated`. -/
def navigated (g : Group V) (state : Value) : Group V × Except Fault Bool :=
  match Entry.ofState? state with
  | none => (g, .ok false)
  | some e =>
    if e.group ≠ g.id then (g, .ok false)
    else
      match g.spread EchoOnly.sink e.window none with
      | (g, _, .error f) => (g, .error f)
      | (g, _, .ok _) => ({ g with stats := g.stats.countNavigation }, .ok true)

/-! ## Users -/

/-- A user zooms or pans one chart. The window is widened to the shortest one allowed, shown on that
    chart, and then reported by it. Models `user_set_range`. -/
def userSet (g : Group V) (h : H) (origin : Nat) (w : Window) :
    Group V × H × Except Fault Outcome :=
  let w := w.widenedTo g.effectiveMinimum
  match g.onChart origin (View.moveTo · w) with
  | (g, .error f) => (g, h, .error f)
  | (g, .ok _) => g.notify h origin w

/-- A user presses the button of a preset on one chart. Models `select_preset`. -/
def select (g : Group V) (h : H) (origin : Nat) (p : Preset) :
    Group V × H × Except Fault Outcome :=
  match g.chart? origin with
  | .error f => (g, h, .error f)
  | .ok c =>
    match View.full? c with
    | none => (g, h, .error .noTimeAxis)
    | some full => g.userSet h origin (p.resolve full)

/-! ## Drawing -/

/-- Draws all charts once. Windows that move because of it are echoes. Models
    `redraw_suppressed`. -/
def redraw (g : Group V) : Group V × Except Fault Unit :=
  match g.sweepAll notify (fun _ c => View.redraw c) EchoOnly.sink with
  | (g, _, .error f) => (g, .error f)
  | (g, _, .ok _) => ({ g with stats := g.stats.countPass }, .ok ())

end Group

end LinkedCharts
