import LinkedCharts.Proofs.Chart.Coverage
import LinkedCharts.Proofs.Group.Data
import LinkedCharts.Proofs.Group.Interrupted

/-!
# Calls that are turned down

A call to a group is turned down if it names a chart or a series that is not there, or a chart
without an axis, or if the chart that a user acts on refuses the window. All of this is found out
before anything is changed. What fails later fails for other reasons: of data, of the canvas, of a
chart that does not follow or of the history.

Results:
* `Fault.IsRejection`, `NeverRejects`: faults of what is named, and answers that have none.
* `Chart.redraw_neverRejects`, `Group.navigated_neverRejects`: drawing and restoring.
* `Group.Untouched`, `Group.TurnsDown`: the group as it was, and calls that it turns down.
* `Group.act_rejected`: such a call leaves the group and the history as they were.
-/

namespace LinkedCharts

/-! ## Rejections -/

/-- Something was named that is not there, or that is there already. -/
def Fault.IsRejection : Fault → Prop
  | .unknownChart .. | .unknownGroup _ | .duplicateGroup _ | .noTimeAxis => True
  | .invalidWindow .. | .invalidSize .. | .invalidData _ | .fetch _ | .payload | .poisoned => False

/-- If the answer is a fault, it is no rejection. -/
def NeverRejects {α : Type} (answer : Except Fault α) : Prop :=
  ∀ f, answer = .error f → ¬ f.IsRejection

section NeverRejects

variable {α β : Type}

theorem neverRejects_ok (a : α) : NeverRejects (.ok a) := by
  intro f h
  cases h

theorem neverRejects_error {f : Fault} (hf : ¬ f.IsRejection) :
    NeverRejects (.error f : Except Fault α) := by
  rintro f' ⟨⟩
  exact hf

theorem NeverRejects.bind {x : Except Fault α} {f : α → Except Fault β} (hx : NeverRejects x)
    (hf : ∀ a, x = .ok a → NeverRejects (f a)) : NeverRejects (x >>= f) := by
  cases x with
  | error e =>
    rintro e' ⟨⟩
    exact hx e rfl
  | ok a => exact hf a rfl

theorem NeverRejects.map {x : Except Fault α} (hx : NeverRejects x) (f : α → β) :
    NeverRejects (x.map f) := by
  cases x with
  | error e =>
    rintro e' ⟨⟩
    exact hx e rfl
  | ok a => exact neverRejects_ok (f a)

end NeverRejects

/-! ## Windows, axes and charts -/

theorem Window.make?_neverRejects (lo hi : Binary64) : NeverRejects (Window.make? lo hi) := by
  unfold Window.make?
  split
  · exact neverRejects_ok _
  · exact neverRejects_error id

/-- Samples that are not all finite make no series. -/
theorem Series.setSamples_fails_iff (s : Series) (xs : List Sample) :
    (∃ f, s.setSamples xs = .error f) ↔ ∃ x ∈ xs, ¬ x.IsFinite := by
  unfold setSamples
  split
  · rename_i hall
    constructor
    · rintro ⟨f, hf⟩
      cases hf
    · exact fun ⟨x, hx, hnot⟩ => absurd (hall x hx) hnot
  · rename_i hnot
    exact ⟨fun _ => by simpa using hnot, fun _ => ⟨_, rfl⟩⟩

theorem extentFrom_neverRejects (ends : Binary64 × Binary64) (xs : List Sample) :
    NeverRejects (extentFrom ends xs) := by
  induction xs generalizing ends with
  | nil => exact neverRejects_ok ends
  | cons x rest ih =>
    unfold extentFrom
    split
    · exact ih _
    · exact neverRejects_error id

theorem extent?_neverRejects (series : List (List Sample)) : NeverRejects (extent? series) := by
  refine (extentFrom_neverRejects _ _).bind ?_
  rintro ⟨lo, hi⟩ -
  dsimp only
  split
  · exact neverRejects_ok none
  · exact (Window.make?_neverRejects lo hi).bind fun w _ => neverRejects_ok (some w)

namespace Axis

theorem ofSamples?_neverRejects (series : List (List Sample)) (minimum : Binary64) :
    NeverRejects (ofSamples? series minimum) := by
  refine (extent?_neverRejects series).bind ?_
  rintro (_ | w) -
  · exact neverRejects_error id
  · exact neverRejects_ok _

/-- An axis grows to any time that is finite, and to no other. -/
theorem growTo?_fails_iff (a : Axis) (time : Binary64) :
    (∃ f, a.growTo? time = .error f) ↔ ¬ time.isFinite := by
  constructor
  · rintro ⟨f, hf⟩ hfinite
    obtain ⟨grown, grew, hok⟩ := a.growTo?_of_finite hfinite
    rw [hok] at hf
    cases hf
  · exact fun hfinite => ⟨_, if_pos hfinite⟩

theorem growTo?_neverRejects (a : Axis) (time : Binary64) : NeverRejects (a.growTo? time) := by
  unfold growTo?
  split
  · exact neverRejects_error id
  · split
    · exact neverRejects_ok _
    · exact (Window.make?_neverRejects time time).bind fun w _ => neverRejects_ok _

end Axis

namespace Chart

theorem axisOfData?_neverRejects (settings : ChartSettings) (series : List Series) :
    NeverRejects (axisOfData? settings series) := by
  refine (extent?_neverRejects _).bind ?_
  rintro (_ | w) -
  · exact neverRejects_ok none
  · exact (Axis.ofSamples?_neverRejects _ _).bind fun a _ => neverRejects_ok _

theorem growAxis?_neverRejects (a : Axis) (grew : Bool) (series : List Series) :
    NeverRejects (growAxis? a grew series) := by
  induction series generalizing a grew with
  | nil => exact neverRejects_ok (a, grew)
  | cons s rest ih =>
    unfold growAxis?
    split
    · exact ih a grew
    · exact (a.growTo?_neverRejects _).bind fun grown _ => ih grown.1 (grew || grown.2)

/-- A chart that cannot follow its data is as it was. -/
theorem followData_of_error {c : Chart} {f : Fault} (h : c.followData.2 = .error f) :
    c.followData.1 = c := by
  rcases followData_cases c with ⟨f', heq⟩ | ⟨-, o, -, heq⟩ | ⟨-, -, after, -, moved, -, -, -, heq⟩
  · rw [heq]
  · rw [heq] at h
    cases h
  · rw [heq] at h
    cases h

theorem followData_neverRejects (c : Chart) : NeverRejects c.followData.2 := by
  unfold followData
  split
  · split
    · rename_i heq
      exact neverRejects_error (axisOfData?_neverRejects _ _ _ heq)
    · exact neverRejects_ok _
  · split
    · rename_i heq
      exact neverRejects_error (growAxis?_neverRejects _ _ _ _ heq)
    · exact neverRejects_ok _

theorem draw_neverRejects (canvas : Canvas) (s : Scene) : NeverRejects (canvas.draw s).2 := by
  have hsize : NeverRejects s.size.check := by
    unfold PixelSize.check
    split
    · exact neverRejects_ok ()
    · exact neverRejects_error id
  have hcheck : NeverRejects s.check := by
    refine hsize.bind fun _ _ => ?_
    split
    · exact neverRejects_error id
    · exact neverRejects_ok ()
  unfold Canvas.draw
  dsimp only
  split
  · exact neverRejects_error id
  · split
    · rename_i heq
      exact neverRejects_error (hcheck _ heq)
    · exact neverRejects_ok ()

/-- A drawing can fail, but is not turned down. -/
theorem redraw_neverRejects (c : Chart) : NeverRejects c.redraw.2 := by
  have hfollow := c.followData_neverRejects
  unfold redraw
  rcases hd : c.followData with ⟨d, f | moved⟩
  · rw [hd] at hfollow
    exact hfollow
  · dsimp only
    split
    · exact neverRejects_ok none
    · rename_i a _
      have hdraw := draw_neverRejects d.canvas (d.scene a.visible)
      rcases hcanvas : d.canvas.draw (d.scene a.visible) with ⟨canvas, f | ⟨⟩⟩
      · rw [hcanvas] at hdraw
        exact neverRejects_error (hdraw f rfl)
      · exact neverRejects_ok moved

theorem append_neverRejects (c : Chart) (index : Nat) (x : Sample) :
    NeverRejects (c.append index x).2 := by
  unfold append
  split
  · exact neverRejects_error id
  · exact neverRejects_ok _

theorem appendAll_neverRejects (c : Chart) (index : Nat) (xs : List Sample) :
    NeverRejects (View.appendAll c index xs).2 := by
  induction xs generalizing c with
  | nil => exact neverRejects_ok 0
  | cons x rest ih =>
    have hone := c.append_neverRejects index x
    unfold View.appendAll
    rw [View.append_chart]
    rcases hx : c.append index x with ⟨d, f | kept⟩
    · rw [hx] at hone
      exact neverRejects_error (hone f rfl)
    · exact (ih d).map _

/-- Samples for a series that is not there leave the chart as it is. -/
theorem appendAll_of_no_series {c : Chart} {index : Nat} (h : c.series[index]? = none)
    (xs : List Sample) : (View.appendAll c index xs).1 = c := by
  rw [View.appendAll_fst, List.modify_eq_self (List.getElem?_eq_none_iff.1 h)]

/-- A chart that does not accept a window is as it was. -/
theorem kept_of_moveTo_error {c : Chart} {w : Window} {f : Fault} (h : (c.moveTo w).2 = .error f) :
    c.Kept (c.moveTo w).1 := by
  by_cases hr : c.moves.next.IsRefused
  · rw [moveTo_of_refused hr]
    exact c.kept_moves _
  · rw [moveTo_of_not_refused hr] at h ⊢
    cases haxis : c.axis with
    | none =>
      unfold Kept Chart.shown
      rw [haxis]
      rfl
    | some a =>
      rw [haxis] at h
      cases h

end Chart

theorem Journal.push_neverRejects (j : Journal) (e : Entry) :
    NeverRejects (Recorder.push j e).2 := by
  show NeverRejects (j.write _).2
  unfold write
  dsimp only
  split
  · exact neverRejects_error id
  · exact neverRejects_ok ()

theorem Journal.replace_neverRejects (j : Journal) (e : Entry) :
    NeverRejects (Recorder.replace j e).2 := by
  show NeverRejects (j.write _).2
  unfold write
  dsimp only
  split
  · exact neverRejects_error id
  · exact neverRejects_ok ()

/-! ## Groups -/

namespace Group

/-- What no chart does in a pass, the pass does not. -/
theorem pass_neverRejects {act : Nat → Chart → Chart × Except Fault (Option Window)}
    (hact : ∀ i c, NeverRejects (act i c).2) (index : Nat) (cs : List Chart) :
    NeverRejects (pass act index cs).answer := by
  rcases pass_cases act index cs with hall | ⟨front, c, back, f, rfl, hfront, hc⟩
  · rw [pass_of_ok index hall]
    exact neverRejects_ok _
  · have hstop : act (index + front.length) c = ((act (index + front.length) c).1, .error f) := by
      rw [← hc]
    rw [pass_of_fault act index hfront hstop]
    exact neverRejects_error (hact _ c f hc)

theorem follow_neverRejects (w : Window) (origin : Option Nat) (index : Nat) (c : Chart) :
    NeverRejects (follow w origin index c).2 := by
  by_cases ho : origin = some index
  · rw [ho, follow_origin]
    exact neverRejects_ok none
  · by_cases hr : c.Refuses
    · rw [follow_of_refused hr w ho]
      exact neverRejects_error fun h => h
    · rw [follow_of_not_refused hr w ho]
      exact neverRejects_ok _

variable {g : Group} {j : Journal}

/-- Restoring a window can fail, but is not turned down. -/
theorem navigated_neverRejects (g : Group) (state : Json.Value) :
    NeverRejects (g.navigated state).2 := by
  by_cases hown : ∃ e, Entry.ofState? state = some e ∧ e.group = g.id
  · obtain ⟨e, he, hid⟩ := hown
    have hpass := pass_neverRejects (follow_neverRejects e.window none) 0 g.charts
    unfold Swept.answer at hpass
    rw [navigated_of_own he hid]
    dsimp only
    split
    · exact neverRejects_ok true
    · rename_i heq
      rw [heq] at hpass
      exact neverRejects_error (hpass _ rfl)
  · rw [navigated_of_foreign fun e he hid => hown ⟨e, he, hid⟩]
    exact neverRejects_ok false

theorem redraw_neverRejects (g : Group) : NeverRejects g.redraw.2 := by
  have hpass : NeverRejects (pass (fun _ c => View.redraw c) 0 g.charts).answer :=
    pass_neverRejects (fun _ => Chart.redraw_neverRejects) 0 g.charts
  unfold Swept.answer at hpass
  rw [redraw_eq]
  dsimp only
  split
  · exact neverRejects_ok ()
  · rename_i heq
    rw [heq] at hpass
    exact neverRejects_error (hpass _ rfl)

/-- A chart that is there can report without being turned down. -/
theorem notify_neverRejects {origin : Nat} (ho : origin < g.charts.length) (j : Journal)
    (w : Window) : NeverRejects (g.notify j origin w).2.2 := by
  have hpush := j.push_neverRejects ⟨g.id, w⟩
  rw [notify_eq, if_neg (by omega)]
  split
  · exact neverRejects_ok _
  · rcases hp : Recorder.push j ⟨g.id, w⟩ with ⟨j', f | ⟨⟩⟩
    · rw [hp] at hpush
      exact neverRejects_error (hpush f rfl)
    · dsimp only
      rw [spread_eq]
      exact (pass_neverRejects (follow_neverRejects w (some origin)) 0 g.charts).map _

theorem anchor_neverRejects (g : Group) (j : Journal) : NeverRejects (g.anchor j).2 := by
  cases hw : g.shared? with
  | none =>
    rw [anchor_of_none hw]
    exact neverRejects_ok false
  | some w =>
    have hreplace := j.replace_neverRejects ⟨g.id, w⟩
    unfold anchor
    rw [hw]
    dsimp only
    rcases hr : Recorder.replace j ⟨g.id, w⟩ with ⟨j', f | ⟨⟩⟩
    · rw [hr] at hreplace
      exact neverRejects_error (hreplace f rfl)
    · exact neverRejects_ok true

/-! ## What is turned down -/

/-- The group as it was, but for attempts to move charts, which are counted. -/
structure Untouched (g after : Group) : Prop where
  charts : List.Forall₂ Chart.Kept g.charts after.charts
  rest : after = { g with charts := after.charts }

theorem Untouched.refl (g : Group) : g.Untouched g :=
  ⟨List.forall₂_same.2 fun c _ => .refl c, rfl⟩

theorem onChart_untouched {α : Type} {act : Chart → Chart × Except Fault α} {index : Nat}
    (hact : ∀ c, g.charts[index]? = some c → c.Kept (act c).1) :
    g.Untouched (g.onChart index act).1 := by
  rcases Nat.lt_or_ge index g.charts.length with hi | hi
  · have hc := List.getElem?_eq_getElem hi
    rw [onChart_of_getElem? hc]
    refine ⟨forall₂_set (Untouched.refl g).charts hc fun c hkept => ?_, rfl⟩
    exact hkept.trans (hact _ hc)
  · rw [onChart_of_le hi]
    exact .refl g

theorem no_series_of_series? {slot : Slot} {c : Chart} (h : g.series? slot = none)
    (hc : g.charts[slot.chart]? = some c) : c.series[slot.series]? = none := by
  cases hs : c.series[slot.series]? with
  | none => rfl
  | some s => exact absurd (series?_eq_some_iff.2 ⟨c, hc, hs⟩) (by simp [h])

/-- The chart at an index is there and does not accept the window. -/
def Declines (g : Group) (index : Nat) (w : Window) : Prop :=
  ∃ c ∈ g.charts[index]?, ∃ f, (c.moveTo w).2 = .error f

/-- The call is for a series that is not there, or a window that the chart it is for does not
    accept. -/
def TurnsDown (g : Group) : Action → Prop
  | .userSet source w => g.Declines source (w.widenedTo g.effectiveMinimum)
  | .select source p => ∃ full ∈ g.charts[source]?.bind View.full?,
    g.Declines source ((p.resolve full).widenedTo g.effectiveMinimum)
  | .apply slot _ => g.series? slot = none
  | .append chart series _ => g.series? ⟨chart, series⟩ = none
  | .moveTo chart w => g.Declines chart w
  | .anchor | .notify .. | .navigated _ | .redraw => False

theorem userSet_rejected {source : Nat} {w : Window}
    (h : (∃ f, (g.userSet j source w).2.2 = .error f ∧ f.IsRejection) ∨
      g.Declines source (w.widenedTo g.effectiveMinimum)) :
    g.Untouched (g.userSet j source w).1 ∧ (g.userSet j source w).2.1 = j := by
  rcases Nat.lt_or_ge source g.charts.length with hlt | hle
  · have hc := List.getElem?_eq_getElem hlt
    cases hm : (View.moveTo g.charts[source] (w.widenedTo g.effectiveMinimum)).2 with
    | error f =>
      have hkept := Chart.kept_of_moveTo_error hm
      rw [userSet_of_refused hc hm]
      exact ⟨⟨forall₂_set (Untouched.refl g).charts hc fun c h => h.trans hkept, rfl⟩, rfl⟩
    | ok moved =>
      -- a window that the chart accepts can only fail for other reasons
      rcases h with ⟨f, hf, hrejection⟩ | ⟨c, hget, f, hf⟩
      · rw [userSet_of_accepted hc hm] at hf
        exact absurd hrejection (notify_neverRejects (by simpa using hlt) j _ f hf)
      · obtain rfl := Option.some.inj (hc.symm.trans hget)
        rw [View.moveTo_chart, hf] at hm
        cases hm
  · rw [userSet_of_le hle]
    exact ⟨.refl g, rfl⟩

theorem select_rejected {source : Nat} {p : Preset}
    (h : (∃ f, (g.select j source p).2.2 = .error f ∧ f.IsRejection) ∨
      g.TurnsDown (.select source p)) :
    g.Untouched (g.select j source p).1 ∧ (g.select j source p).2.1 = j := by
  rcases g.select_cases j source p with ⟨f, heq⟩ | ⟨full, hfull, heq⟩
  · rw [heq]
    exact ⟨.refl g, rfl⟩
  · rw [heq] at h ⊢
    refine userSet_rejected (h.imp_right ?_)
    rintro ⟨full', hfull', hdeclines⟩
    rwa [← Option.some.inj (hfull.symm.trans hfull')] at hdeclines

theorem apply_rejected {slot : Slot} {xs : List Sample}
    (h : (∃ f, (g.apply slot xs).2 = .error f ∧ f.IsRejection) ∨ g.series? slot = none) :
    g.Untouched (g.apply slot xs).1 := by
  unfold Group.apply at h ⊢
  refine onChart_untouched fun c hc => ?_
  rcases h with ⟨f, hf, hrejection⟩ | h
  · rw [onChart_of_getElem? hc] at hf
    exact absurd hrejection (c.appendAll_neverRejects slot.series xs f hf)
  · rw [Chart.appendAll_of_no_series (no_series_of_series? h hc)]
    exact .refl c

theorem append_rejected (slot : Slot) {x : Sample}
    (h : (∃ f, (g.onChart slot.chart (View.append · slot.series x)).2 = .error f ∧ f.IsRejection) ∨
      g.series? slot = none) :
    g.Untouched (g.onChart slot.chart (View.append · slot.series x)).1 := by
  refine onChart_untouched fun c hc => ?_
  rcases h with ⟨f, hf, hrejection⟩ | h
  · rw [onChart_of_getElem? hc] at hf
    exact absurd hrejection (c.append_neverRejects slot.series x f hf)
  · rw [View.append_chart, Chart.append_of_none (no_series_of_series? h hc)]
    exact .refl c

theorem moveTo_rejected {chart : Nat} {w : Window}
    (h : (∃ f, (g.onChart chart (View.moveTo · w)).2 = .error f ∧ f.IsRejection) ∨
      g.Declines chart w) :
    g.Untouched (g.onChart chart (View.moveTo · w)).1 := by
  refine onChart_untouched fun c hc => ?_
  rcases h with ⟨f, hf, -⟩ | ⟨d, hd, f, hf⟩
  · rw [onChart_of_getElem? hc] at hf
    exact Chart.kept_of_moveTo_error hf
  · obtain rfl := Option.some.inj (hc.symm.trans hd)
    exact Chart.kept_of_moveTo_error hf

/-- What was answered, told as the result of a call, is turned down for the same fault. -/
theorem rejection_of_map {α β : Type} {answer : Except Fault α} {tell : α → β}
    (h : ∃ f, answer.map tell = .error f ∧ f.IsRejection) :
    ∃ f, answer = .error f ∧ f.IsRejection := by
  obtain ⟨f, hf, hrejection⟩ := h
  cases answer with
  | error f' =>
    cases hf
    exact ⟨f, rfl, hrejection⟩
  | ok a => cases hf

/-- A call that is turned down leaves the group as it was, and writes nothing. -/
theorem act_rejected {a : Action}
    (h : (∃ f, (g.act j a).2.2 = .error f ∧ f.IsRejection) ∨ g.TurnsDown a) :
    g.Untouched (g.act j a).1 ∧ (g.act j a).2.1 = j := by
  cases a with
  | anchor =>
    obtain ⟨f, hf, hrejection⟩ := rejection_of_map (h.resolve_right fun h => h)
    exact absurd hrejection (anchor_neverRejects g j f hf)
  | notify origin w =>
    obtain ⟨f, hf, hrejection⟩ := rejection_of_map (h.resolve_right fun h => h)
    rcases Nat.lt_or_ge origin g.charts.length with ho | ho
    · exact absurd hrejection (notify_neverRejects ho j w f hf)
    · show g.Untouched (g.notify j origin w).1 ∧ (g.notify j origin w).2.1 = j
      rw [notify_of_le ho]
      exact ⟨.refl g, rfl⟩
  | userSet source w => exact userSet_rejected (h.imp_left rejection_of_map)
  | select source p => exact select_rejected (h.imp_left rejection_of_map)
  | navigated state =>
    obtain ⟨f, hf, hrejection⟩ := rejection_of_map (h.resolve_right fun h => h)
    exact absurd hrejection (g.navigated_neverRejects state f hf)
  | redraw =>
    obtain ⟨f, hf, hrejection⟩ := rejection_of_map (h.resolve_right fun h => h)
    exact absurd hrejection (g.redraw_neverRejects f hf)
  | apply slot samples => exact ⟨apply_rejected (h.imp_left rejection_of_map), rfl⟩
  | append chart series x =>
    exact ⟨append_rejected ⟨chart, series⟩ (h.imp_left rejection_of_map), rfl⟩
  | moveTo chart w => exact ⟨moveTo_rejected (h.imp_left rejection_of_map), rfl⟩

end Group

end LinkedCharts
