import LinkedCharts.Proofs.Axis
import LinkedCharts.Proofs.Group.Coherence

/-!
# Windows stay well formed

Windows are checked where they are made or read. Everything else takes the ends of windows that are
there already, with one exception: widening computes new ends, and close to the largest numbers half
of the minimum on a side of the centre leads to an infinity. Widening happens in two places, when a
user chooses a window and when an axis is fitted to data. As long as it overflows in neither, all
windows that a group shows or records are well formed, whatever is called and whatever fails.

Results:
* `Chart.FitOverflows`, `Chart.make?_wellFormed_iff`: when fitting an axis overflows.
* `Group.Bounded`, `Group.act_wellFormed`: a call that overflows nowhere keeps the windows well
  formed.
* `Group.choice_wellFormed_iff`: just a window that overflows is recorded with an infinite end.
* `Group.windows_wellFormed`: what the operations on windows return, and what a run shows and
  records.
-/

namespace LinkedCharts

/-! ## Charts -/

namespace Chart

variable {c : Chart}

/-- Both windows of the axis, if there is one, are well formed. -/
def WellFormed (c : Chart) : Prop := ∀ a ∈ c.axis, a.WellFormed

instance (c : Chart) : Decidable c.WellFormed := inferInstanceAs (Decidable (∀ a ∈ c.axis, _))

/-- Widening the extent of the data leads beyond the finite numbers. -/
def FitOverflows (settings : ChartSettings) (series : List Series) : Prop :=
  ∃ w ∈ (extent? (series.map fun s => s.samples.toList)).toOption.join,
    w.Overflows settings.minimumSpan

instance (settings : ChartSettings) (series : List Series) :
    Decidable (FitOverflows settings series) :=
  inferInstanceAs (Decidable (∃ w ∈ _, _))

/-- The chart has its axis already, or fitting one does not overflow. -/
def FitsFinite (c : Chart) : Prop := c.axis = none → ¬ FitOverflows c.settings c.series

instance (c : Chart) : Decidable c.FitsFinite := inferInstanceAs (Decidable (_ → _))

theorem axisOfData?_wellFormed_iff {settings : ChartSettings} {series : List Series}
    {o : Option Axis} (h : axisOfData? settings series = .ok o) :
    (∀ a ∈ o, a.WellFormed) ↔ ¬ FitOverflows settings series := by
  obtain ⟨data, hdata, rfl⟩ := axisOfData?_eq_ok h
  unfold FitOverflows
  rw [hdata]
  cases data with
  | none =>
    constructor
    · rintro - ⟨w, ⟨⟩, -⟩
    · rintro - a ⟨⟩
  | some w =>
    have hiff := fitted_wellFormed_iff settings (extent?_wellFormed hdata)
    constructor
    · rintro hall ⟨v, ⟨⟩, hover⟩
      exact hiff.1 (hall _ rfl) hover
    · rintro hover a ⟨⟩
      exact hiff.2 fun ho => hover ⟨w, rfl, ho⟩

/-- A chart is made with well-formed windows just if fitting its axis does not overflow. -/
theorem make?_wellFormed_iff {settings : ChartSettings} {series : List Series} {canvas : Canvas}
    {moves : Calls} {limitsZoom : Bool}
    (h : make? settings series canvas moves limitsZoom = .ok c) :
    c.WellFormed ↔ ¬ FitOverflows settings series :=
  axisOfData?_wellFormed_iff (make?_eq_ok h).2.2.2

theorem WellFormed.moveTo (h : c.WellFormed) {w : Window} (hw : w.WellFormed) :
    (c.moveTo w).1.WellFormed := by
  by_cases hr : c.moves.next.IsRefused
  · rw [moveTo_of_refused hr]
    exact h
  · rw [moveTo_of_not_refused hr]
    intro b hb
    obtain ⟨a, ha, rfl⟩ := Option.map_eq_some_iff.1 hb
    exact (h a ha).moveTo hw

theorem WellFormed.redraw (h : c.WellFormed) (hfit : c.FitsFinite) : c.redraw.1.WellFormed := by
  have hfollowed : c.followData.1.WellFormed := by
    rcases followData_cases c with ⟨f, heq⟩ | ⟨hnone, o, ho, heq⟩ |
      ⟨a, b, after, grew, moved, ha, hb, hafter, heq⟩
    · rw [heq]
      exact h
    · rw [heq]
      exact (axisOfData?_wellFormed_iff ho).2 (hfit hnone)
    · have hgrown := (h a ha).growAxis? hb
      rw [heq]
      rintro d ⟨⟩
      rcases hafter with rfl | rfl
      · exact hgrown
      · exact hgrown.moveTo hgrown.full
  obtain ⟨canvas, redraws, heq⟩ := c.redraw_leaves
  rw [heq]
  exact hfollowed

theorem WellFormed.full (h : c.WellFormed) {w : Window} (hw : c.full? = some w) :
    w.WellFormed := by
  obtain ⟨a, ha, rfl⟩ := Option.map_eq_some_iff.1 hw
  exact (h a ha).full

theorem WellFormed.visible (h : c.WellFormed) {w : Window} (hw : c.visible? = some w) :
    w.WellFormed := by
  obtain ⟨a, ha, rfl⟩ := Option.map_eq_some_iff.1 hw
  exact (h a ha).visible

theorem appendAll_axis (c : Chart) (index : Nat) (xs : List Sample) :
    (View.appendAll c index xs).1.axis = c.axis := by
  induction xs generalizing c with
  | nil => rfl
  | cons x rest ih =>
    have hone := c.append_axis index x
    unfold View.appendAll
    rw [View.append_chart]
    rcases hx : c.append index x with ⟨d, f | kept⟩
    · rw [hx] at hone
      exact hone
    · rw [hx] at hone
      exact (ih d).trans hone

theorem WellFormed.of_axis {d : Chart} (h : c.WellFormed) (heq : d.axis = c.axis) :
    d.WellFormed := by
  unfold WellFormed
  rw [heq]
  exact h

end Chart

namespace Group

/-! ## Calls -/

/-- All windows of all charts are well formed. -/
def WellFormed (g : Group) : Prop := ∀ c ∈ g.charts, c.WellFormed

instance (g : Group) : Decidable g.WellFormed := inferInstanceAs (Decidable (∀ c ∈ g.charts, _))

/-- A window that is given with the call is well formed, and no widening overflows. -/
def Bounded (g : Group) : Action → Prop
  | .anchor | .navigated _ | .apply .. | .append .. => True
  | .notify _ w | .moveTo _ w => w.WellFormed
  | .userSet _ w => w.WellFormed ∧ ¬ w.Overflows g.effectiveMinimum
  | .select origin p =>
    ∀ full ∈ g.charts[origin]?.bind View.full?, ¬ (p.resolve full).Overflows g.effectiveMinimum
  | .redraw => ∀ c ∈ g.charts, c.FitsFinite

instance (g : Group) : DecidablePred g.Bounded := fun a =>
  match a with
  | .anchor | .navigated _ | .apply .. | .append .. => inferInstanceAs (Decidable True)
  | .notify _ w | .moveTo _ w => inferInstanceAs (Decidable w.WellFormed)
  | .userSet _ w => inferInstanceAs (Decidable (w.WellFormed ∧ _))
  | .select .. => inferInstanceAs (Decidable (∀ full ∈ _, _))
  | .redraw => inferInstanceAs (Decidable (∀ c ∈ g.charts, _))

variable {g : Group} {H : Type} [Recorder H]

theorem WellFormed.full (hg : g.WellFormed) {origin : Nat} {full : Window}
    (hfull : g.charts[origin]?.bind View.full? = some full) : full.WellFormed := by
  obtain ⟨c, hc, hfull⟩ := Option.bind_eq_some_iff.1 hfull
  exact Chart.WellFormed.full (hg c (List.mem_of_getElem? hc)) hfull

theorem WellFormed.redraw (hg : g.WellFormed) (hfit : ∀ c ∈ g.charts, c.FitsFinite) :
    g.redraw.1.WellFormed := by
  unfold WellFormed
  rw [redraw_charts]
  exact pass_forall (P := fun c => c.WellFormed ∧ c.FitsFinite) (Q := Chart.WellFormed)
    (fun _ hc => hc.1) (fun _ _ hc => hc.1.redraw hc.2) 0 fun c hc => ⟨hg c hc, hfit c hc⟩

/-- A call that overflows nowhere leaves all windows well formed, whatever it answers. -/
theorem act_wellFormed (hg : g.WellFormed) (h : H) {a : Action} (hb : g.Bounded a) :
    (g.act h a).1.WellFormed := by
  cases a with
  | anchor => exact hg
  | notify origin w => exact notify_forall (fun c hc => Chart.WellFormed.moveTo hc hb) hg h origin
  | userSet origin w =>
    have hwide := (hb.1.widenedTo_iff g.effectiveMinimum).2 hb.2
    exact userSet_forall (fun c hc => Chart.WellFormed.moveTo hc hwide) hg h origin
  | select origin p =>
    refine select_forall ?_ hg h
    intro full hfull c hc
    have hwindow := Preset.resolve_wellFormed (hg.full hfull) p
    exact Chart.WellFormed.moveTo hc ((hwindow.widenedTo_iff _).2 (hb full hfull))
  | navigated state =>
    exact navigated_forall
      (fun e he c hc => Chart.WellFormed.moveTo hc (Entry.ofState?_wellFormed he).window) hg
  | redraw => exact hg.redraw hb
  | apply slot samples =>
    exact onChart_forall (fun c hc => hc.of_axis (c.appendAll_axis _ _)) hg slot.chart
  | append chart series x =>
    exact onChart_forall (fun c hc => hc.of_axis (c.append_axis _ _)) hg chart
  | moveTo chart w => exact onChart_forall (fun c hc => Chart.WellFormed.moveTo hc hb) hg chart

/-! ## What is recorded -/

/-- The window that a user's choice records is well formed just if widening it does not overflow. -/
theorem choice_wellFormed_iff {w : Window} (hw : w.WellFormed) {origin : Nat} {a : Write}
    (ha : g.choice origin w = some a) :
    a.entry.window.WellFormed ↔ ¬ w.Overflows g.effectiveMinimum := by
  unfold choice at ha
  split at ha
  · cases ha
  · split at ha
    · cases ha
      exact hw.widenedTo_iff _
    · cases ha

/-- What a call that overflows nowhere has to write has a well-formed window. -/
theorem writeOf_wellFormed (hg : g.WellFormed) {a : Action} (hb : g.Bounded a) :
    ∀ e ∈ g.writeOf a, e.entry.window.WellFormed := by
  intro e he
  cases a with
  | anchor =>
    obtain ⟨w, hw, rfl⟩ := Option.map_eq_some_iff.1 he
    obtain ⟨c, hc, hw⟩ := Option.bind_eq_some_iff.1 hw
    exact Chart.WellFormed.visible (hg c (List.mem_of_head? hc)) hw
  | notify origin w =>
    unfold writeOf at he
    dsimp only at he
    split at he
    · cases he
      exact hb
    · cases he
  | userSet origin w => exact (choice_wellFormed_iff hb.1 he).2 hb.2
  | select origin p =>
    obtain ⟨full, hfull, he⟩ := Option.bind_eq_some_iff.1 he
    exact (choice_wellFormed_iff (Preset.resolve_wellFormed (hg.full hfull) p) he).2
      (hb full hfull)
  | navigated state => cases he
  | redraw => cases he
  | apply slot samples => cases he
  | append chart series x => cases he
  | moveTo chart w => cases he

/-! ## Runs -/

/-- No call of the run overflows anywhere. -/
def BoundedRun (g : Group) (h : H) : List Action → Prop
  | [] => True
  | a :: rest => g.Bounded a ∧ (g.act h a).1.BoundedRun (g.act h a).2.1 rest

instance decidableBoundedRun (g : Group) (h : H) : DecidablePred (g.BoundedRun h)
  | [] => inferInstanceAs (Decidable True)
  | a :: rest =>
    have := decidableBoundedRun (g.act h a).1 (g.act h a).2.1 rest
    inferInstanceAs (Decidable (_ ∧ _))

/-- A run that overflows nowhere shows and writes well-formed windows only. -/
theorem run_wellFormed (hg : g.WellFormed) (h : Logged H) {calls : List Action}
    (hb : g.BoundedRun h calls) :
    (run g h calls).group.WellFormed ∧ ∀ a ∈ writes g h calls, a.entry.window.WellFormed := by
  induction calls generalizing g h with
  | nil => exact ⟨hg, fun a ha => absurd ha List.not_mem_nil⟩
  | cons a rest ih =>
    obtain ⟨hgroup, hwrites⟩ := ih (act_wellFormed hg h hb.1) _ hb.2
    refine ⟨hgroup, ?_⟩
    intro e he
    rcases List.mem_append.1 he with he | he
    · exact writeOf_wellFormed hg hb.1 e (Option.mem_toList.1 he)
    · exact hwrites e he

/-- What is well formed and what is not. A window that is made, read, joined, resolved from a preset
    or found as the extent of data is well formed. Widening a window, and fitting an axis, is so
    just if it does not overflow, which it cannot up to half of the largest numbers. A run of calls
    that overflow nowhere leaves only well-formed windows on all charts and in the history; and a
    window that a user chooses is recorded well formed just if widening it does not overflow. -/
theorem windows_wellFormed (g : Group) (h : H) (calls : List Action) :
    (∀ lo hi w, Window.make? lo hi = .ok w → w.WellFormed) ∧
    (∀ a b w, Window.between? a b = .ok w → w.WellFormed) ∧
    (∀ t w, Window.ofTree? t = some w → w.WellFormed) ∧
    (∀ state e, Entry.ofState? state = some e → e.window.WellFormed) ∧
    (∀ v w : Window, v.WellFormed → w.WellFormed → (v.union w).WellFormed) ∧
    (∀ (p : Preset) full, full.WellFormed → (p.resolve full).WellFormed) ∧
    (∀ series w, extent? series = .ok (some w) → w.WellFormed) ∧
    (∀ (w : Window) m, w.WellFormed → ((w.widenedTo m).WellFormed ↔ ¬ w.Overflows m)) ∧
    (∀ (w : Window) m, w.WellFormed → w.lo.IsModerate → w.hi.IsModerate → m.IsModerate →
      ¬ w.Overflows m) ∧
    (∀ series m a, Axis.ofSamples? series m = .ok a →
      (a.WellFormed ↔ ∀ w, extent? series = .ok (some w) → ¬ w.Overflows m)) ∧
    (∀ (a b : Axis) time grew, a.WellFormed → a.growTo? time = .ok (b, grew) → b.WellFormed) ∧
    (∀ w origin a, w.WellFormed → g.choice origin w = some a →
      (a.entry.window.WellFormed ↔ ¬ w.Overflows g.effectiveMinimum)) ∧
    (g.suppressed = false → g.WellFormed → g.BoundedRun (Logged.start h) calls →
      (run g (Logged.start h) calls).group.WellFormed ∧
      ∀ a ∈ (run g (Logged.start h) calls).history.log, a.1.entry.window.WellFormed) := by
  refine ⟨fun lo hi w hw => (Window.make?_eq_ok_iff.1 hw).2,
    fun a b w hw => (Window.make?_eq_ok_iff.1 hw).2,
    fun t w hw => Window.ofTree?_wellFormed hw,
    fun state e he => (Entry.ofState?_wellFormed he).window,
    fun v w hv hw => hv.union hw,
    fun p full hfull => Preset.resolve_wellFormed hfull p,
    fun series w hw => extent?_wellFormed hw,
    fun w m hw => hw.widenedTo_iff m,
    fun w m hw hlo hhi hm => Window.not_overflows_of_moderate hw.ordered hlo hhi hm,
    fun series m a ha => Axis.ofSamples?_wellFormed_iff ha,
    fun a b time grew ha hb => ha.growTo? hb,
    fun w origin a hw ha => choice_wellFormed_iff hw ha, ?_⟩
  intro hopen hg hb
  obtain ⟨hgroup, hwrites⟩ := run_wellFormed hg (Logged.start h) hb
  have hlog := (run_spec hopen (Logged.start h) calls).2.1
  refine ⟨hgroup, fun a ha => hwrites a.1 ?_⟩
  have hmem := List.mem_map_of_mem (f := Prod.fst) ha
  rw [hlog] at hmem
  exact hmem

/-- Calls of every kind that choose, restore or draw a window. -/
def boundedCalls : List Action :=
  [.anchor, .userSet 0 ⟨2, 4⟩, .select 1 .second, .moveTo 3 ⟨1, 2⟩, .redraw,
    .navigated (Entry.toState ⟨⟨"load"⟩, ⟨0, 10⟩⟩)]

theorem windows_wellFormed_mixed :
    ((Window.mk 0 6).union ⟨4, 10⟩).WellFormed ∧ (Preset.second.resolve ⟨0, 5000⟩).WellFormed ∧
    ((Window.mk 2 4).widenedTo 6).WellFormed ∧
    (run mixedGroup (Logged.start Trail.start) boundedCalls).group.WellFormed ∧
    ∀ a ∈ (run mixedGroup (Logged.start Trail.start) boundedCalls).history.log,
      a.1.entry.window.WellFormed := by
  obtain ⟨-, -, -, -, hunion, hresolve, -, hwidened, hmoderate, -, -, -, hrun⟩ :=
    windows_wellFormed mixedGroup Trail.start boundedCalls
  have hshort : (Window.mk 2 4).WellFormed := by decide +kernel
  refine ⟨hunion _ _ (by decide +kernel) (by decide +kernel), hresolve _ _ (by decide +kernel),
    (hwidened _ _ hshort).2 ?_, hrun rfl (by decide +kernel) (by decide +kernel)⟩
  exact hmoderate _ _ hshort (by decide +kernel) (by decide +kernel) (by decide +kernel)

/-- Widened to a minimum that every chart may have, a well-formed window can reach infinity. -/
theorem widenedTo_reaches_infinity :
    ¬ ∀ (w : Window) (m : Binary64), w.WellFormed → IsMinimumSpan m →
      (w.widenedTo m).WellFormed := by
  intro h
  have hwide := h ⟨.ofNat (17 * 10 ^ 307), .ofNat (17 * 10 ^ 307)⟩ (.ofNat (10 ^ 308))
    (by decide +kernel) (by decide +kernel)
  exact absurd hwide (by decide +kernel)

end Group

end LinkedCharts
