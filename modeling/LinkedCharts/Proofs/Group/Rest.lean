import LinkedCharts.Proofs.Chart.Rest
import LinkedCharts.Proofs.Group.Data
import LinkedCharts.Proofs.Group.Notices

/-!
# Groups at rest

While no series accepts a sample, the charts of a group that were drawn stay at rest, whatever else
is done with the group: windows that are chosen, restored or moved do not matter, and neither do
samples that are refused. A drawing of such a group moves no window, so no chart has anything to
report, and no echo is counted.

Results:
* `Group.BringsNothing`, `Group.Quiet`: no sample is accepted.
* `Group.act_atRest`, `Group.run_atRest`: charts at rest stay at rest.
* `Group.redraw_quiescent`: what a drawing of charts at rest, and of a group of them, does.
-/

namespace LinkedCharts

/-- A series that counts none of some samples has not changed. -/
theorem Series.appendAll_of_accepted_eq_zero {s : Series} {xs : List Sample}
    (h : s.accepted xs = 0) : s.appendAll xs = s := by
  induction xs with
  | nil => rfl
  | cons x rest ih =>
    unfold accepted at h
    by_cases hx : s.Accepts x
    · rw [if_pos hx] at h
      cases h
    · rw [if_neg hx, append_of_not_accepts hx] at h
      show (s.append x).appendAll rest = s
      rw [append_of_not_accepts hx]
      exact ih h

/-- A change that leaves the element at an index as it is leaves the list as it is. -/
theorem modify_of_same {α : Type} {l : List α} {i : Nat} {f : α → α} (h : ∀ x ∈ l[i]?, f x = x) :
    l.modify i f = l := by
  rw [List.modify_eq_set_getElem?]
  cases hx : l[i]? with
  | none => rfl
  | some x =>
    obtain ⟨hi, rfl⟩ := List.getElem?_eq_some_iff.1 hx
    show l.set i (f l[i]) = l
    rw [h l[i] hx, List.set_getElem_self]

namespace Group

variable {g : Group}

/-! ## Calls that offer nothing new -/

/-- The call offers no sample that is accepted. -/
def BringsNothing (g : Group) : Action → Prop
  | .append chart series x => ∀ s ∈ g.series? ⟨chart, series⟩, ¬ s.Accepts x
  | .apply slot samples => ∀ s ∈ g.series? slot, s.accepted samples = 0
  | .anchor | .notify .. | .userSet .. | .select .. | .navigated _ | .redraw | .moveTo .. => True

instance (g : Group) : DecidablePred g.BringsNothing := fun a =>
  match a with
  | .append .. | .apply .. => inferInstanceAs (Decidable (∀ s ∈ g.series? _, _))
  | .anchor | .notify .. | .userSet .. | .select .. | .navigated _ | .redraw | .moveTo .. =>
    inferInstanceAs (Decidable True)

/-- A change that leaves the series in the slot as it is leaves the group as it is. -/
theorem modifySeries_of_same {slot : Slot} {change : Series → Series}
    (h : ∀ s ∈ g.series? slot, change s = s) : g.modifySeries slot change = g := by
  have hsame : ∀ c ∈ g.charts[slot.chart]?,
      ({ c with series := c.series.modify slot.series change } : Chart) = c := by
    intro c hc
    rw [modify_of_same fun s hs => h s (series?_eq_some_iff.2 ⟨c, hc, hs⟩)]
  unfold modifySeries
  rw [modify_of_same hsame]

theorem append_of_bringsNothing {chart series : Nat} {x : Sample}
    (h : g.BringsNothing (.append chart series x)) :
    (g.onChart chart (View.append · series x)).1 = g := by
  have hfst : (g.onChart chart (View.append · series x)).1 =
      g.modifySeries ⟨chart, series⟩ (·.append x) := by
    unfold modifySeries
    rw [onChart_fst]
    simp only [View.append_chart, Chart.append_fst]
  rw [hfst]
  exact modifySeries_of_same fun s hs => Series.append_of_not_accepts (h s hs)

theorem apply_of_bringsNothing {slot : Slot} {samples : List Sample}
    (h : g.BringsNothing (.apply slot samples)) : (g.apply slot samples).1 = g := by
  rw [apply_fst]
  exact modifySeries_of_same fun s hs => Series.appendAll_of_accepted_eq_zero (h s hs)

variable {H : Type} [Recorder H]

/-- None of the calls offers a sample that is accepted. -/
def Quiet (g : Group) (h : H) : List Action → Prop
  | [] => True
  | a :: rest => g.BringsNothing a ∧ (g.act h a).1.Quiet (g.act h a).2.1 rest

instance decidableQuiet (g : Group) (h : H) : DecidablePred (g.Quiet h)
  | [] => inferInstanceAs (Decidable True)
  | a :: rest =>
    have := decidableQuiet (g.act h a).1 (g.act h a).2.1 rest
    inferInstanceAs (Decidable (_ ∧ _))

/-! ## Charts at rest -/

/-- Charts at rest stay at rest in every call that offers nothing new. -/
theorem act_atRest (hall : ∀ c ∈ g.charts, c.AtRest) (h : H) {a : Action} (ha : g.BringsNothing a) :
    ∀ c ∈ (g.act h a).1.charts, c.AtRest := by
  have hmove : ∀ (w : Window) (c : Chart), c.AtRest → (c.moveTo w).1.AtRest :=
    fun w c hc => hc.act (e := .moveTo w) trivial
  cases a with
  | anchor => exact hall
  | notify origin w => exact notify_forall (hmove w) hall h origin
  | userSet origin w => exact userSet_forall (hmove _) hall h origin
  | select origin p => exact select_forall (fun _ _ => hmove _) hall h
  | navigated state => exact navigated_forall (fun e _ => hmove e.window) hall
  | redraw => exact redraw_forall (fun c hc => hc.act (e := .redraw) trivial) hall
  | apply slot samples =>
    show ∀ c ∈ (g.apply slot samples).1.charts, c.AtRest
    rw [apply_of_bringsNothing ha]
    exact hall
  | append chart series x =>
    show ∀ c ∈ (g.onChart chart (View.append · series x)).1.charts, c.AtRest
    rw [append_of_bringsNothing ha]
    exact hall
  | moveTo chart w => exact onChart_forall (hmove w) hall chart

theorem run_atRest (hall : ∀ c ∈ g.charts, c.AtRest) (h : H) {calls : List Action}
    (hquiet : g.Quiet h calls) : ∀ c ∈ (g.run h calls).group.charts, c.AtRest := by
  induction calls generalizing g h with
  | nil => exact hall
  | cons a rest ih => exact ih (act_atRest hall h hquiet.1) (g.act h a).2.1 hquiet.2

/-- A drawing that gets through leaves all charts at rest. -/
theorem redraw_atRest (hall : ∀ c ∈ g.charts, c.Reachable ∧ c.Keeps .redraw)
    (hok : g.redraw.2 = .ok ()) : ∀ c ∈ g.redraw.1.charts, c.AtRest := by
  have hfault := redraw_fault hok
  rw [redraw_charts]
  rcases pass_cases (fun _ c => View.redraw c) 0 g.charts with hdrawn | ⟨front, c, back, f, hsplit,
    hfront, hc⟩
  · rw [pass_of_ok 0 hdrawn]
    intro d hd
    obtain ⟨p, hp, rfl⟩ := List.mem_map.1 hd
    obtain ⟨hreachable, hkeeps⟩ := hall p.1 (List.fst_mem_of_mem_zipIdx hp)
    exact hreachable.atRest hkeeps
  · rw [hsplit, pass_of_fault _ 0 hfront (Prod.ext rfl hc)] at hfault
    cases hfault

/-! ## Drawings at rest -/

/-- Charts that do not move have nothing to report. -/
theorem reported_eq_nil {act : Nat → Chart → Chart × Except Fault (Option Window)} {cs : List Chart}
    (h : ∀ i, ∀ c ∈ cs, ∀ moved, (act i c).2 = .ok moved → moved = none) (index : Nat) :
    reported act index cs = [] := by
  induction cs generalizing index with
  | nil => rfl
  | cons c rest ih =>
    have hrest := ih fun i d hd => h i d (List.mem_cons_of_mem c hd)
    unfold reported
    cases hc : (act index c).2 with
    | error f => rfl
    | ok moved =>
      obtain rfl := h index c List.mem_cons_self moved hc
      exact hrest (index + 1)

/-- A drawing of all charts changes no window, tells of none, and counts no echo. -/
structure Still (g : Group) : Prop where
  axes : g.redraw.1.charts.map Chart.axis = g.charts.map Chart.axis
  notices : g.notices = []
  echoes : g.redraw.1.stats.echoes = g.stats.echoes

theorem still_of_charts (h : ∀ c ∈ g.charts, c.Still) : g.Still := by
  have hnotices : g.notices = [] := by
    rw [notices_eq_reported]
    exact reported_eq_nil (fun _ c hc => (h c hc).silent) 0
  refine ⟨?_, hnotices, ?_⟩
  · rw [redraw_charts]
    exact pass_map (fun _ c hc => (h c hc).axis) 0
  · rw [redraw_echoes, hnotices]
    rfl

/-- A drawing that follows another one, without a sample accepted in between, finds nothing to do
    but to draw. A chart was drawn before, whether or not its canvas took the scene, and was then
    only moved, drawn and offered samples that it refused: a drawing leaves its axis as it is and
    reports nothing, and the next drawing has the same scene. A group of such charts hears of no
    window and counts no echo; and such is a group that was drawn to the end, until a call offers
    one of its series a sample that it accepts. -/
theorem redraw_quiescent :
    (∀ c : Chart, c.AtRest → c.Still) ∧
    (∀ g : Group, (∀ c ∈ g.charts, c.AtRest) → g.Still) ∧
    ∀ (g : Group) (h : H) (calls : List Action),
      (∀ c ∈ g.charts, c.Reachable ∧ c.Keeps .redraw) → g.redraw.2 = .ok () →
      g.redraw.1.Quiet h calls → (g.redraw.1.run h calls).group.Still := by
  have hgroup : ∀ g : Group, (∀ c ∈ g.charts, c.AtRest) → g.Still :=
    fun g hall => still_of_charts fun c hc => (hall c hc).still
  refine ⟨fun c hc => hc.still, hgroup, fun g h calls hall hok hquiet => ?_⟩
  exact hgroup _ (run_atRest (redraw_atRest hall hok) h hquiet)

/-- A chart that follows a sample, and one that shows a part of its data. -/
def freshPair : Group :=
  ⟨⟨"load"⟩, [Chart.lopsided.run [.append 0 ⟨250, 1⟩],
    Chart.lopsided.run [.append 1 ⟨50, 1⟩, .moveTo ⟨120, 150⟩]], false, 1, .none⟩

/-- Windows for both charts, and samples that are too old. -/
def idleCalls : List Action :=
  [.userSet 1 ⟨130, 140⟩, .apply ⟨1, 1⟩ [⟨40, 1⟩, ⟨50, 2⟩], .moveTo 0 ⟨0, 10⟩, .redraw,
    .append 0 0 ⟨250, 2⟩]

/-- The first drawing of the pair is told, and none after that; and a chart whose first drawing is
    refused is at rest as well. -/
theorem redraw_quiescent_pair :
    freshPair.notices = [(0, ⟨100, 250⟩)] ∧
    (freshPair.redraw.1.run Trail.start idleCalls).group.Still ∧
    (Chart.unlucky.run [.append 1 ⟨50, 1⟩]).redraw.2 = .error (.invalidData (.drawRefused 1)) ∧
    ((Chart.unlucky.run [.append 1 ⟨50, 1⟩]).redraw.1.run [.moveTo ⟨60, 70⟩]).Still := by
  obtain ⟨hchart, -, hgroup⟩ := redraw_quiescent (H := Trail)
  have hsorted : ∀ s ∈ Chart.lopsidedSeries, s.Sorted := by decide +kernel
  have hunlucky : Chart.make? .standard Chart.lopsidedSeries (.blank [1]) (.ofRefused []) false =
      .ok Chart.unlucky := by decide +kernel
  have hlopsided : ∀ events, (Chart.lopsided.run events).Reachable := fun events =>
    ⟨_, _, _, _, _, _, events, hsorted, Chart.lopsided_made, rfl⟩
  have hdrawn : ∀ c ∈ freshPair.charts, c.Reachable ∧ c.Keeps .redraw := by
    refine List.forall_mem_cons.2 ⟨⟨hlopsided [.append 0 ⟨250, 1⟩], by decide +kernel⟩, ?_⟩
    refine List.forall_mem_singleton.2 ⟨hlopsided [.append 1 ⟨50, 1⟩, .moveTo ⟨120, 150⟩], ?_⟩
    decide +kernel
  have hrefused : (Chart.unlucky.run [.append 1 ⟨50, 1⟩]).Reachable :=
    ⟨_, _, _, _, _, _, _, hsorted, hunlucky, rfl⟩
  have hmoved : (Chart.unlucky.run [.append 1 ⟨50, 1⟩]).redraw.1.Quiet [.moveTo ⟨60, 70⟩] :=
    ⟨trivial, trivial⟩
  have hrest : ((Chart.unlucky.run [.append 1 ⟨50, 1⟩]).redraw.1.run [.moveTo ⟨60, 70⟩]).AtRest :=
    ⟨_, _, hrefused, by decide +kernel, hmoved, rfl⟩
  refine ⟨by decide +kernel, ?_, by decide +kernel, hchart _ hrest⟩
  exact hgroup freshPair Trail.start idleCalls hdrawn (by decide +kernel) (by decide +kernel)

end Group

end LinkedCharts
