import LinkedCharts.Group.Feed
import LinkedCharts.History.Journal
import LinkedCharts.Proofs.Chart
import LinkedCharts.Proofs.Group.Frame

/-!
# Runs of a group

A group is worked by a host that calls its operations in any order. The views and the history can
refuse anything at any time; the next call comes all the same.

What is written to the history is said beforehand: `Group.writeOf` reads it off the group and the
call alone. A history that keeps a log of the attempts shows that nothing else is ever written.

Results:
* `Group.act`, `Group.run`: one call, and a run of calls.
* `Logged`: a history that keeps a log of what was attempted.
* `Group.writeOf`, `Group.writes`: what a call, and a run, writes.
* `Group.act_done`: what one call does to the flag, the history and the counters.
* `Group.act_id`, `Group.act_forall`: no call renames a group, or takes away what charts keep.
* `Group.run_suppresses_echoes`: over a whole run nothing but the choices of users is recorded.
-/

namespace LinkedCharts

/-! ## Calls -/

/-- A call of the host. -/
inductive Action
  | anchor
  | notify (origin : Nat) (w : Window)
  | userSet (origin : Nat) (w : Window)
  | select (origin : Nat) (p : Preset)
  | navigated (state : Json.Value)
  | redraw
  | apply (slot : Slot) (samples : List Sample)
  /-- a sample that the host offers to a series itself -/
  | append (chart series : Nat) (x : Sample)
  /-- a window that the host makes visible on a chart itself -/
  | moveTo (chart : Nat) (w : Window)

/-- What a call answers when it succeeds. -/
inductive CallResult
  | anchored (written : Bool)
  | outcome (what : Outcome)
  | restored (own : Bool)
  | drawn
  | accepted (samples : Nat)
  | changed (did : Bool)
deriving DecidableEq

/-- What a run leaves: the group, the history, and the results of the calls. -/
structure Run (V H : Type) where
  group : Group V
  history : H
  results : List (Except Fault CallResult)

/-! ## Writes -/

/-- An attempt to write to a history. -/
inductive Write
  | push (e : Entry)
  | replace (e : Entry)
deriving DecidableEq

/-- A history with a log of the attempts to write to it, and whether they succeeded. -/
structure Logged (H : Type) where
  history : H
  log : List (Write × Bool)

namespace Logged

variable {H : Type} [Recorder H]

/-- A history with nothing attempted yet. -/
def start (h : H) : Logged H := ⟨h, []⟩

instance : Recorder (Logged H) where
  push h e :=
    let (history, answer) := Recorder.push h.history e
    (⟨history, h.log ++ [(.push e, answer.isOk)]⟩, answer)
  replace h e :=
    let (history, answer) := Recorder.replace h.history e
    (⟨history, h.log ++ [(.replace e, answer.isOk)]⟩, answer)

/-- The history after an attempt to write to it. -/
def attempt (h : Logged H) : Write → Logged H
  | .push e => (Recorder.push h e).1
  | .replace e => (Recorder.replace h e).1

/-- The number of windows that were recorded as new states. -/
def recorded (h : Logged H) : Nat :=
  h.log.countP fun (attempted, succeeded) => attempted matches .push _ && succeeded

theorem attempt_log (h : Logged H) (a : Write) :
    (h.attempt a).log.map Prod.fst = h.log.map Prod.fst ++ [a] := by
  cases a with
  | push e => exact List.map_append
  | replace e => exact List.map_append

theorem recorded_push (h : Logged H) (e : Entry) :
    (Recorder.push h e).1.recorded =
      h.recorded + if (Recorder.push h e).2.isOk then 1 else 0 := by
  show List.countP _ (h.log ++ [_]) = _
  rw [List.countP_append, List.countP_singleton]
  rfl

theorem recorded_replace (h : Logged H) (e : Entry) :
    (Recorder.replace h e).1.recorded = h.recorded := by
  show List.countP _ (h.log ++ [_]) = _
  rw [List.countP_append, List.countP_singleton]
  rfl

end Logged

namespace Group

variable {V H : Type} [View V]

section Calls

variable [Recorder H]

/-- One call of the host. -/
def act (g : Group V) (h : H) : Action → Group V × H × Except Fault CallResult
  | .anchor =>
    let (h, answer) := g.anchor h
    (g, h, answer.map .anchored)
  | .notify origin w =>
    let (g, h, answer) := g.notify h origin w
    (g, h, answer.map .outcome)
  | .userSet origin w =>
    let (g, h, answer) := g.userSet h origin w
    (g, h, answer.map .outcome)
  | .select origin p =>
    let (g, h, answer) := g.select h origin p
    (g, h, answer.map .outcome)
  | .navigated state =>
    let (g, answer) := g.navigated state
    (g, h, answer.map .restored)
  | .redraw =>
    let (g, answer) := g.redraw
    (g, h, answer.map fun _ => .drawn)
  | .apply slot samples =>
    let (g, answer) := g.apply slot samples
    (g, h, answer.map .accepted)
  | .append chart series x =>
    let (g, answer) := g.onChart chart (View.append · series x)
    (g, h, answer.map .changed)
  | .moveTo chart w =>
    let (g, answer) := g.onChart chart (View.moveTo · w)
    (g, h, answer.map .changed)

/-- A run of calls, whatever their results are. -/
def run (g : Group V) (h : H) : List Action → Run V H
  | [] => ⟨g, h, []⟩
  | a :: rest =>
    let (g, h, result) := g.act h a
    let r := run g h rest
    { r with results := result :: r.results }

end Calls

/-- What a user's window has to write: the window as it is widened, if the chart accepts it. -/
def choice (g : Group V) (origin : Nat) (w : Window) : Option Write :=
  match g.charts[origin]? with
  | none => none
  | some c =>
    match (View.moveTo c (w.widenedTo g.effectiveMinimum)).2 with
    | .ok _ => some (.push ⟨g.id, w.widenedTo g.effectiveMinimum⟩)
    | .error _ => none

/-- What a call has to write. The window shown goes over the current state when the history is
    anchored; a window that a chart reports, and one that a user chooses, becomes a new state.
    Nothing else is written. -/
def writeOf (g : Group V) : Action → Option Write
  | .anchor => g.shared?.map fun w => .replace ⟨g.id, w⟩
  | .notify origin w => if origin < g.charts.length then some (.push ⟨g.id, w⟩) else none
  | .userSet origin w => g.choice origin w
  | .select origin p =>
    (g.charts[origin]?.bind View.full?).bind fun full => g.choice origin (p.resolve full)
  | .navigated _ | .redraw | .apply .. | .append .. | .moveTo .. => none

/-- What a run has to write, call by call. -/
def writes [Recorder H] (g : Group V) (h : H) : List Action → List Write
  | [] => []
  | a :: rest => (g.writeOf a).toList ++ writes (g.act h a).1 (g.act h a).2.1 rest

/-! ## What a call does -/

variable [Recorder H]

/-- What a call did to the flag, the history and the counters, when it had this to write, and when
    this many windows were restored and this many drawings finished by it. -/
structure Done (g : Group V) (h : Logged H) (write : Option Write) (restored drawn : Nat)
    (after : Group V) (written : Logged H) : Prop where
  suppressed : after.suppressed = g.suppressed
  history : written = write.elim h h.attempt
  pushes : after.stats.pushes + h.recorded = g.stats.pushes + written.recorded
  navigations : after.stats.navigations = g.stats.navigations + restored
  passes : after.stats.passes = g.stats.passes + drawn

omit [View V] in
/-- A call that changes charts and hears echoes writes nothing. -/
theorem Done.of_echoes (g : Group V) (h : Logged H) (charts : List V) (echoes : Nat) :
    Done g h none 0 0 { g with charts, stats := g.stats.addEchoes echoes } h :=
  ⟨rfl, rfl, rfl, rfl, rfl⟩

omit [View V] in
theorem onChart_done {α : Type} (g : Group V) (h : Logged H) (index : Nat)
    (act : V → V × Except Fault α) : Done g h none 0 0 (g.onChart index act).1 h := by
  rcases Nat.lt_or_ge index g.charts.length with hi | hi
  · rw [onChart_of_getElem? (List.getElem?_eq_getElem hi)]
    exact .of_echoes g h _ 0
  · rw [onChart_of_le hi]
    exact .of_echoes g h g.charts 0

/-- A report outside of a step writes its window once. -/
theorem notify_done {g : Group V} (hopen : g.suppressed = false) (h : Logged H) (origin : Nat)
    (w : Window) :
    Done g h (if origin < g.charts.length then some (.push ⟨g.id, w⟩) else none) 0 0
      (g.notify h origin w).1 (g.notify h origin w).2.1 := by
  rcases Nat.lt_or_ge origin g.charts.length with ho | ho
  · rw [if_pos ho]
    have hrec := Logged.recorded_push h ⟨g.id, w⟩
    rcases hp : Recorder.push h ⟨g.id, w⟩ with ⟨h', f | ⟨⟩⟩
    · rw [hp] at hrec
      rw [notify_of_refused ho hopen hp]
      refine ⟨rfl, by rw [Option.elim, Logged.attempt, hp], ?_, rfl, rfl⟩
      rw [show h'.recorded = h.recorded from hrec]
    · rw [hp] at hrec
      rw [notify_of_push ho hopen hp]
      refine ⟨rfl, by rw [Option.elim, Logged.attempt, hp], ?_, rfl, rfl⟩
      rw [show h'.recorded = h.recorded + 1 from hrec]
      show g.stats.pushes + 1 + h.recorded = _
      omega
  · rw [if_neg (by omega), notify_of_le ho]
    exact .of_echoes g h g.charts 0

/-- A window that a user chooses is written once, if the chart accepts it. -/
theorem userSet_done {g : Group V} (hopen : g.suppressed = false) (h : Logged H) (origin : Nat)
    (w : Window) :
    Done g h (g.choice origin w) 0 0 (g.userSet h origin w).1 (g.userSet h origin w).2.1 := by
  unfold choice
  rcases Nat.lt_or_ge origin g.charts.length with ho | ho
  · have hc := List.getElem?_eq_getElem ho
    rw [hc]
    dsimp only
    cases hm : (View.moveTo g.charts[origin] (w.widenedTo g.effectiveMinimum)).2 with
    | error f =>
      rw [userSet_of_refused hc hm]
      exact .of_echoes g h _ 0
    | ok moved =>
      rw [userSet_of_accepted hc hm]
      -- the group with the chart moved has the same flag, name and counters
      have hdone := notify_done (g := { g with
        charts := g.charts.set origin
          (View.moveTo g.charts[origin] (w.widenedTo g.effectiveMinimum)).1 })
        hopen h origin (w.widenedTo g.effectiveMinimum)
      rw [if_pos (by simpa using ho)] at hdone
      exact ⟨hdone.suppressed, hdone.history, hdone.pushes, hdone.navigations, hdone.passes⟩
  · rw [List.getElem?_eq_none ho, userSet_of_le ho]
    exact .of_echoes g h g.charts 0

theorem select_done {g : Group V} (hopen : g.suppressed = false) (h : Logged H) (origin : Nat)
    (p : Preset) :
    Done g h (g.writeOf (.select origin p)) 0 0 (g.select h origin p).1
      (g.select h origin p).2.1 := by
  unfold writeOf select chart?
  dsimp only
  cases g.charts[origin]? with
  | none => exact .of_echoes g h g.charts 0
  | some c =>
    dsimp only [Option.bind_some]
    cases View.full? c with
    | none => exact .of_echoes g h g.charts 0
    | some full => exact userSet_done hopen h origin (p.resolve full)

theorem anchor_done (g : Group V) (h : Logged H) :
    Done g h (g.writeOf .anchor) 0 0 g (g.anchor h).1 := by
  unfold writeOf
  dsimp only
  cases hw : g.shared? with
  | none =>
    unfold anchor
    rw [hw]
    exact .of_echoes g h g.charts 0
  | some w =>
    rw [anchor_history hw]
    exact ⟨rfl, rfl, by rw [Logged.recorded_replace], rfl, rfl⟩

/-- The call restored a window of the group's own. -/
def Restores : Except Fault CallResult → Bool
  | .ok (.restored true) => true
  | _ => false

/-- The call finished a drawing of all charts. -/
def Draws : Except Fault CallResult → Bool
  | .ok .drawn => true
  | _ => false

theorem navigated_done (g : Group V) (h : Logged H) (state : Json.Value) :
    Done g h none (Restores ((g.navigated state).2.map .restored)).toNat 0
      (g.navigated state).1 h := by
  by_cases hown : ∃ e, Entry.ofState? state = some e ∧ e.group = g.id
  · obtain ⟨e, he, hid⟩ := hown
    rw [navigated_of_own he hid]
    dsimp only
    cases (pass (follow e.window none) 0 g.charts).fault with
    | none => exact ⟨rfl, rfl, rfl, rfl, rfl⟩
    | some f => exact .of_echoes g h _ _
  · rw [navigated_of_foreign fun e he hid => hown ⟨e, he, hid⟩]
    exact .of_echoes g h g.charts 0

theorem redraw_done (g : Group V) (h : Logged H) :
    Done g h none 0 (Draws (g.redraw.2.map fun _ => .drawn)).toNat g.redraw.1 h := by
  rw [redraw_eq]
  dsimp only
  cases (pass (fun _ c => View.redraw c) 0 g.charts).fault with
  | none => exact ⟨rfl, rfl, rfl, rfl, rfl⟩
  | some f => exact .of_echoes g h _ _

omit [View V] in
/-- A result of another kind counts for neither. -/
theorem Done.of_other {α : Type} {g after : Group V} {h written : Logged H} {write : Option Write}
    (hdone : Done g h write 0 0 after written) {kind : α → CallResult} (answer : Except Fault α)
    (hkind : ∀ a, Restores (.ok (kind a)) = false ∧ Draws (.ok (kind a)) = false) :
    Done g h write (Restores (answer.map kind)).toNat (Draws (answer.map kind)).toNat after
      written := by
  have hother : Restores (answer.map kind) = false ∧ Draws (answer.map kind) = false := by
    cases answer with
    | error f => exact ⟨rfl, rfl⟩
    | ok a => exact hkind a
  rw [hother.1, hother.2]
  exact hdone

/-- What one call does: the flag is as before, the history has seen just what the call had to
    write, and the counters have counted it. -/
theorem act_done {g : Group V} (hopen : g.suppressed = false) (h : Logged H) (a : Action) :
    Done g h (g.writeOf a) (Restores (g.act h a).2.2).toNat (Draws (g.act h a).2.2).toNat
      (g.act h a).1 (g.act h a).2.1 := by
  cases a with
  | anchor => exact (anchor_done g h).of_other _ fun _ => ⟨rfl, rfl⟩
  | notify origin w => exact (notify_done hopen h origin w).of_other _ fun _ => ⟨rfl, rfl⟩
  | userSet origin w => exact (userSet_done hopen h origin w).of_other _ fun _ => ⟨rfl, rfl⟩
  | select origin p => exact (select_done hopen h origin p).of_other _ fun _ => ⟨rfl, rfl⟩
  | navigated state =>
    have hdraws : Draws ((g.navigated state).2.map .restored) = false := by
      cases (g.navigated state).2 with
      | error f => rfl
      | ok own => rfl
    show Done g h none _ (Draws ((g.navigated state).2.map .restored)).toNat _ h
    rw [hdraws]
    exact navigated_done g h state
  | redraw =>
    have hrestores : Restores (g.redraw.2.map fun _ => .drawn) = false := by
      cases g.redraw.2 with
      | error f => rfl
      | ok own => rfl
    show Done g h none (Restores (g.redraw.2.map fun _ => .drawn)).toNat _ _ h
    rw [hrestores]
    exact redraw_done g h
  | apply slot samples => exact (onChart_done g h _ _).of_other _ fun _ => ⟨rfl, rfl⟩
  | append chart series x => exact (onChart_done g h _ _).of_other _ fun _ => ⟨rfl, rfl⟩
  | moveTo chart w => exact (onChart_done g h _ _).of_other _ fun _ => ⟨rfl, rfl⟩

/-! ## What a call keeps -/

theorem redraw_id (g : Group V) : g.redraw.1.id = g.id := by
  rw [redraw_fst]

/-- No call renames a group. -/
theorem act_id (g : Group V) (h : H) (a : Action) : (g.act h a).1.id = g.id := by
  cases a with
  | anchor => rfl
  | notify origin w => exact g.notify_id h origin w
  | userSet origin w => exact g.userSet_id h origin w
  | select origin p => exact g.select_id h origin p
  | navigated state => exact g.navigated_id state
  | redraw => exact g.redraw_id
  | apply slot samples => exact g.onChart_id _ _
  | append chart series x => exact g.onChart_id _ _
  | moveTo chart w => exact g.onChart_id _ _

theorem appendAll_keeps {P : V → Prop} (happend : ∀ index x c, P c → P (View.append c index x).1)
    (index : Nat) (xs : List Sample) {c : V} (hc : P c) : P (View.appendAll c index xs).1 := by
  induction xs generalizing c with
  | nil => exact hc
  | cons x rest ih =>
    have hone := happend index x c hc
    unfold View.appendAll
    rcases hx : View.append c index x with ⟨d, f | kept⟩
    · rw [hx] at hone
      exact hone
    · rw [hx] at hone
      exact ih hone

theorem redraw_forall {P : V → Prop} (hredraw : ∀ c, P c → P (View.redraw c).1) {g : Group V}
    (hall : ∀ c ∈ g.charts, P c) : ∀ c ∈ g.redraw.1.charts, P c := by
  rw [redraw_charts]
  exact pass_forall (fun _ hc => hc) (fun _ => hredraw) 0 hall

/-- What moves, samples and drawings keep holds of all charts after every call. -/
theorem act_forall {P : V → Prop} (hmove : ∀ w c, P c → P (View.moveTo c w).1)
    (happend : ∀ index x c, P c → P (View.append c index x).1)
    (hredraw : ∀ c, P c → P (View.redraw c).1) {g : Group V} (hall : ∀ c ∈ g.charts, P c) (h : H)
    (a : Action) : ∀ c ∈ (g.act h a).1.charts, P c := by
  cases a with
  | anchor => exact hall
  | notify origin w => exact notify_forall (hmove w) hall h origin
  | userSet origin w => exact userSet_forall (hmove _) hall h origin
  | select origin p => exact select_forall (fun _ _ => hmove _) hall h
  | navigated state => exact navigated_forall (fun e _ => hmove e.window) hall
  | redraw => exact redraw_forall hredraw hall
  | apply slot samples =>
    refine onChart_forall (fun c hc => ?_) hall slot.chart
    exact appendAll_keeps happend slot.series samples hc
  | append chart series x => exact onChart_forall (happend series x) hall chart
  | moveTo chart w => exact onChart_forall (hmove w) hall chart

/-! ## Runs -/

omit [View V] in
theorem Done.log {g after : Group V} {h written : Logged H} {write : Option Write}
    {restored drawn : Nat} (hdone : Done g h write restored drawn after written) :
    written.log.map Prod.fst = h.log.map Prod.fst ++ write.toList := by
  rw [hdone.history]
  cases write with
  | none => exact (List.append_nil _).symm
  | some a => exact Logged.attempt_log h a

theorem run_cons (g : Group V) (h : H) (a : Action) (rest : List Action) :
    run g h (a :: rest) =
      { run (g.act h a).1 (g.act h a).2.1 rest with
        results := (g.act h a).2.2 :: (run (g.act h a).1 (g.act h a).2.1 rest).results } := rfl

omit [View V] [Recorder H] in
theorem countP_cons_toNat {α : Type} (p : α → Bool) (a : α) (l : List α) :
    (a :: l).countP p = (p a).toNat + l.countP p := by
  rw [List.countP_cons, Nat.add_comm]
  cases p a with
  | false => rfl
  | true => rfl

/-- What a run does to the flag, the log and the counters. -/
theorem run_spec {g : Group V} (hopen : g.suppressed = false) (h : Logged H)
    (calls : List Action) :
    (run g h calls).group.suppressed = false ∧
    (run g h calls).history.log.map Prod.fst = h.log.map Prod.fst ++ writes g h calls ∧
    (run g h calls).group.stats.pushes + h.recorded =
      g.stats.pushes + (run g h calls).history.recorded ∧
    (run g h calls).group.stats.navigations =
      g.stats.navigations + (run g h calls).results.countP Restores ∧
    (run g h calls).group.stats.passes =
      g.stats.passes + (run g h calls).results.countP Draws := by
  induction calls generalizing g h with
  | nil => exact ⟨hopen, (List.append_nil _).symm, rfl, rfl, rfl⟩
  | cons a rest ih =>
    have hstep := act_done hopen h a
    obtain ⟨hflag, hlog, hpushes, hnavigations, hpasses⟩ :=
      ih (hstep.suppressed.trans hopen) (g.act h a).2.1
    have hp := hstep.pushes
    rw [run_cons]
    dsimp only
    refine ⟨hflag, ?_, ?_, ?_, ?_⟩
    · rw [hlog, hstep.log, List.append_assoc]
      rfl
    · omega
    · rw [hnavigations, hstep.navigations, countP_cons_toNat, Nat.add_assoc]
    · rw [hpasses, hstep.passes, countP_cons_toNat, Nat.add_assoc]

/-- Echo suppression over whole runs, whatever views and history refuse. After every call the flag
    is down. The history has seen one attempt for every anchoring of a group with a window, for
    every window reported by a chart that exists and for every window of a user that its chart
    accepts, in this order, and nothing else. The counters say how many windows were recorded, how
    many states restored and how many drawings finished. -/
theorem run_suppresses_echoes (g : Group V) (hopen : g.suppressed = false) (h : H)
    (calls : List Action) :
    (∀ before, before <+: calls → (run g (Logged.start h) before).group.suppressed = false) ∧
    (run g (Logged.start h) calls).history.log.map Prod.fst = writes g (Logged.start h) calls ∧
    (run g (Logged.start h) calls).group.stats.pushes =
      g.stats.pushes + (run g (Logged.start h) calls).history.recorded ∧
    (run g (Logged.start h) calls).group.stats.navigations =
      g.stats.navigations + (run g (Logged.start h) calls).results.countP Restores ∧
    (run g (Logged.start h) calls).group.stats.passes =
      g.stats.passes + (run g (Logged.start h) calls).results.countP Draws := by
  obtain ⟨-, hlog, hpushes, hnavigations, hpasses⟩ := run_spec hopen (Logged.start h) calls
  exact ⟨fun before _ => (run_spec hopen (Logged.start h) before).1, hlog, hpushes, hnavigations,
    hpasses⟩

/-- Two charts, the second of which refuses its second move. -/
def reluctantPair : Group :=
  ⟨⟨"load"⟩, [.showing ⟨0, 10⟩ [], .showing ⟨0, 10⟩ [2]], false, 1, .none⟩

/-- Calls to the pair, of which the third is refused by a chart and the fourth by a history that
    refuses its third write. -/
def reluctantCalls : List Action :=
  [.anchor, .userSet 0 ⟨2, 4⟩, .userSet 1 ⟨5, 6⟩, .userSet 0 ⟨5, 6⟩,
    .navigated (Entry.toState ⟨⟨"load"⟩, ⟨0, 10⟩⟩)]

theorem run_suppresses_echoes_reluctantly :
    (run reluctantPair (Logged.start (Journal.start [3])) reluctantCalls).history.log.map Prod.fst =
      [.replace ⟨⟨"load"⟩, ⟨0, 10⟩⟩, .push ⟨⟨"load"⟩, ⟨2, 4⟩⟩, .push ⟨⟨"load"⟩, ⟨5, 6⟩⟩] ∧
    (run reluctantPair (Logged.start (Journal.start [3])) reluctantCalls).group.stats.pushes = 1 ∧
    (run reluctantPair (Logged.start (Journal.start [3])) reluctantCalls).group.stats.navigations
      = 1 := by
  obtain ⟨-, hlog, hpushes, hnavigations, -⟩ :=
    run_suppresses_echoes reluctantPair rfl (Journal.start [3]) reluctantCalls
  refine ⟨hlog.trans ?_, hpushes.trans ?_, hnavigations.trans ?_⟩
  · decide +kernel
  · decide +kernel
  · decide +kernel

end Group

end LinkedCharts
