import LinkedCharts.Proofs.Chart.Following
import LinkedCharts.Proofs.Group.Windows

/-!
# Showing all data while it comes in

Choosing all data shows the full window of a chart, widened to the shortest window that the group
allows. A chart whose data is shorter than that shows more than all of it, and so does not show its
full window; from then on its window stays, and the data runs out of it. Widening rounds the centre,
so that even a chart that is still taken to show all of its data can miss an end of it by a
rounding.

While only data comes in, the window that was chosen is given up just for the full window, and that
is kept. A chart whose data is as long as all minima of its group always shows all of it.

Results:
* `Group.notify_at_origin`, `Group.select_all_axis`: choosing all data on a chart.
* `Axis.Since`, `Axis.Step.since`: what becomes of a chosen window while data comes in.
* `Group.act_at`, `Group.live_run_at`: what samples and drawings do to one chart of a group.
* `Group.all_keeps_following`: which windows follow after all data was chosen.
* `Group.all_stops_following`: a chart whose data runs out of its window.
-/

namespace LinkedCharts

/-! ## The window of an axis -/

namespace Axis

variable {a b : Axis} {moved : Option Window} {full w : Window}

/-- What is left, while data comes in, of an axis over `full` that was told to show `w`. It shows
    that, or all of itself. It always shows all of itself if it did so exactly, and does not lose
    any of it if it did so nearly and nothing was lost. -/
structure Since (full w : Window) (b : Axis) : Prop where
  ordered : b.full.Ordered
  shown : b.visible.Same w ∨ b.full.WellFormed ∧ b.visible.Same b.full
  exact : full.WellFormed → w.Same full → b.full.WellFormed ∧ b.visible.Same b.full
  nearly : w.Near full tolerance → w.Covers full → b.ShowsAll ∧ b.visible.Covers b.full

/-- An axis that has just been told what to show. -/
theorem Since.of_moveTo (ha : a.full.Ordered) (hw : w.Ordered) : Since a.full w (a.moveTo w).1 where
  ordered := by
    rw [moveTo_full]
    exact ha
  shown := Or.inl (moveTo_visible a hw)
  exact := by
    intro hfull hsame
    rw [moveTo_full]
    exact ⟨hfull, (moveTo_visible a hw).trans hsame⟩
  nearly := by
    intro hnear hcovers
    have hsame := moveTo_visible a hw
    have hshows : (a.moveTo w).1.visible.Near a.full tolerance :=
      hnear.of_same hsame tolerance_isFinite
    unfold ShowsAll
    rw [moveTo_full]
    exact ⟨hshows, hsame.covers.trans hcovers⟩

/-- A window that was equal to the full one is equal to it after a drawing. -/
theorem Step.same (h : a.Step b moved) (hfull : a.full.WellFormed) (hsame : a.visible.Same a.full) :
    b.full.WellFormed ∧ b.visible.Same b.full := by
  cases h with
  | rest => exact ⟨hfull, hsame⟩
  | zoomed full grows hzoomed => exact absurd (showsAll_of_same hfull hsame) hzoomed
  | follow full grows _ => exact ⟨grows.finite hfull, .refl grows.ordered⟩
  | reach full grows _ hreach => exact ⟨grows.finite hfull, hreach⟩

/-- A window that is taken to be all of the axis, and is, is that after a drawing. -/
theorem Step.covers (h : a.Step b moved) (ha : a.full.Ordered) (hshows : a.ShowsAll)
    (hcovers : a.visible.Covers a.full) : b.ShowsAll ∧ b.visible.Covers b.full := by
  have hfull := hshows.full_wellFormed ha
  cases h with
  | rest => exact ⟨hshows, hcovers⟩
  | zoomed full grows hzoomed => exact absurd hshows hzoomed
  | follow full grows _ =>
    exact ⟨showsAll_of_same (grows.finite hfull) (.refl grows.ordered), grows.ordered.covers_self⟩
  | reach full grows _ hreach =>
    exact ⟨showsAll_of_same (grows.finite hfull) hreach, hreach.covers⟩

/-- The window that was chosen is only given up for the full one. -/
theorem Step.shown (h : a.Step b moved) (ha : a.full.Ordered)
    (hshown : a.visible.Same w ∨ a.full.WellFormed ∧ a.visible.Same a.full) :
    b.visible.Same w ∨ b.full.WellFormed ∧ b.visible.Same b.full := by
  rcases hshown with hshown | ⟨hfull, hsame⟩
  · cases h with
    | rest => exact Or.inl hshown
    | zoomed full _ _ => exact Or.inl hshown
    | follow full grows hshows =>
      exact Or.inr ⟨grows.finite (hshows.full_wellFormed ha), .refl grows.ordered⟩
    | reach full _ _ _ => exact Or.inl hshown
  · exact Or.inr (h.same hfull hsame)

theorem Step.since (h : a.Step b moved) (ha : Since full w a) : Since full w b where
  ordered := h.ordered ha.ordered
  shown := h.shown ha.ordered ha.shown
  exact := by
    intro hfull hsame
    obtain ⟨hbefore, hall⟩ := ha.exact hfull hsame
    exact h.same hbefore hall
  nearly := by
    intro hnear hcovers
    obtain ⟨hshows, hall⟩ := ha.nearly hnear hcovers
    exact h.covers ha.ordered hshows hall

end Axis

namespace Group

variable {V H : Type}

/-! ## One chart of a group -/

/-- After a pass a chart is as it was, or has acted. -/
theorem pass_at (act : Nat → V → V × Except Fault (Option Window)) (index : Nat) {cs : List V}
    {k : Nat} {c : V} (hc : cs[k]? = some c) :
    (pass act index cs).charts[k]? = some c ∨
      (pass act index cs).charts[k]? = some (act (index + k) c).1 := by
  induction cs generalizing index k with
  | nil => cases hc
  | cons d rest ih =>
    unfold pass
    cases k with
    | zero =>
      obtain rfl : d = c := Option.some.inj hc
      right
      rcases act index d with ⟨d', f | moved⟩ <;> simp
    | succ k =>
      rcases act index d with ⟨d', f | moved⟩
      · -- The pass stops here.
        exact Or.inl hc
      · have hrest := ih (index + 1) (k := k) hc
        rwa [show index + 1 + k = index + (k + 1) by omega] at hrest

/-- What an action keeps of every chart is kept of one chart that may be the one that acts. -/
theorem onChart_at {α : Type} {g : Group V} {act : V → V × Except Fault α} {P : V → Prop}
    (hact : ∀ c, P c → P (act c).1) {k : Nat} (h : ∃ c, g.charts[k]? = some c ∧ P c) (index : Nat) :
    ∃ c, (g.onChart index act).1.charts[k]? = some c ∧ P c := by
  obtain ⟨c, hc, hp⟩ := h
  rcases Nat.lt_or_ge index g.charts.length with hi | hi
  · rw [onChart_of_getElem? (List.getElem?_eq_getElem hi)]
    show ∃ d, (g.charts.set index _)[k]? = some d ∧ P d
    rcases eq_or_ne index k with rfl | hne
    · obtain rfl := Option.some.inj ((List.getElem?_eq_getElem hi).symm.trans hc)
      exact ⟨_, List.getElem?_set_self hi, hact _ hp⟩
    · exact ⟨c, (List.getElem?_set_ne hne).trans hc, hp⟩
  · rw [onChart_of_le hi]
    exact ⟨c, hc, hp⟩

variable [View V] [Recorder H]

/-- A chart that reports a window is left as it is by what the group does about it. -/
theorem notify_at_origin (g : Group V) (h : H) (origin : Nat) (w : Window) :
    (g.notify h origin w).1.charts[origin]? = g.charts[origin]? := by
  rw [notify_eq]
  split
  · rfl
  · rename_i hlen
    split
    · rfl
    · rcases Recorder.push h ⟨g.id, w⟩ with ⟨h', f | ⟨⟩⟩
      · rfl
      · have hlt : origin < g.charts.length := Nat.lt_of_not_le hlen
        have hc := List.getElem?_eq_getElem hlt
        dsimp only
        rw [spread_eq]
        have hpass := pass_at (follow w (some origin)) 0 hc
        rw [Nat.zero_add, follow, if_pos rfl, or_self] at hpass
        exact hpass.trans hc.symm

/-- Only data comes in, or is drawn. -/
def IsLive : Action → Prop
  | .redraw | .apply .. | .append .. => True
  | _ => False

instance : DecidablePred IsLive := fun a =>
  match a with
  | .redraw | .apply .. | .append .. => inferInstanceAs (Decidable True)
  | .anchor | .notify .. | .userSet .. | .select .. | .navigated _ | .moveTo .. =>
    inferInstanceAs (Decidable False)

/-- What samples and drawings keep of a chart, a live call keeps of it. -/
theorem act_at {P : V → Prop} (happend : ∀ index x c, P c → P (View.append c index x).1)
    (hredraw : ∀ c, P c → P (View.redraw c).1) {g : Group V} {k : Nat}
    (hk : ∃ c, g.charts[k]? = some c ∧ P c) (h : H) {a : Action} (ha : IsLive a) :
    ∃ c, (g.act h a).1.charts[k]? = some c ∧ P c := by
  cases a with
  | redraw =>
    obtain ⟨c, hc, hp⟩ := hk
    show ∃ d, g.redraw.1.charts[k]? = some d ∧ P d
    rw [redraw_charts]
    rcases pass_at (fun _ c => View.redraw c) 0 hc with hd | hd
    · exact ⟨c, hd, hp⟩
    · exact ⟨_, hd, hredraw c hp⟩
  | apply slot samples =>
    exact onChart_at (fun c hc => appendAll_keeps happend slot.series samples hc) hk slot.chart
  | append chart series x => exact onChart_at (happend series x) hk chart
  | anchor | notify | userSet | select | navigated | moveTo => cases ha

theorem live_run_at {P : V → Prop} (happend : ∀ index x c, P c → P (View.append c index x).1)
    (hredraw : ∀ c, P c → P (View.redraw c).1) {g : Group V} {k : Nat}
    (hk : ∃ c, g.charts[k]? = some c ∧ P c) (h : H) {calls : List Action}
    (hlive : ∀ a ∈ calls, IsLive a) : ∃ c, (g.run h calls).group.charts[k]? = some c ∧ P c := by
  induction calls generalizing g h with
  | nil => exact hk
  | cons a rest ih =>
    obtain ⟨ha, hrest⟩ := List.forall_mem_cons.1 hlive
    exact ih (act_at happend hredraw hk h ha) (g.act h a).2.1 hrest

end Group

namespace Chart

variable {c : Chart} {full w : Window}

/-- The chart has an axis that was over `full` and told to show `w`, and only data came in since. -/
def Shows (full w : Window) (c : Chart) : Prop := ∃ b, c.axis = some b ∧ b.Since full w

theorem Shows.append (h : c.Shows full w) (index : Nat) (x : Sample) :
    (c.append index x).1.Shows full w := by
  obtain ⟨b, hb, hsince⟩ := h
  exact ⟨b, (c.append_axis index x).trans hb, hsince⟩

theorem Shows.redraw (h : c.Shows full w) : c.redraw.1.Shows full w := by
  obtain ⟨b, hb, hsince⟩ := h
  obtain ⟨e, moved, hstep, he, -⟩ := redraw_step hb hsince.ordered
  exact ⟨e, he, hstep.since hsince⟩

end Chart

/-! ## Choosing all data -/

namespace Group

variable {H : Type} [Recorder H]

/-- If all data is chosen on a chart and nothing fails, the chart shows its full window, widened to
    the shortest one that the group allows. -/
theorem select_all_axis {g g' : Group} {h h' : H} {origin : Nat} {c : Chart} {a : Axis}
    {what : Outcome} (hc : g.charts[origin]? = some c) (ha : c.axis = some a)
    (hok : g.select h origin .all = (g', h', .ok what)) :
    ∃ d, g'.charts[origin]? = some d ∧
      d.axis = some (a.moveTo (a.full.widenedTo g.effectiveMinimum)).1 := by
  rw [select_of_axis hc ha, show Preset.all.resolve a.full = a.full from rfl] at hok
  cases hm : (View.moveTo c (a.full.widenedTo g.effectiveMinimum)).2 with
  | error f =>
    rw [userSet_of_refused hc hm] at hok
    cases hok
  | ok moved =>
    rw [userSet_of_accepted hc hm] at hok
    have hcharts := congrArg (fun r => r.1.charts[origin]?) hok
    dsimp only at hcharts
    rw [notify_at_origin] at hcharts
    refine ⟨_, hcharts.symm.trans (List.getElem?_set_self (List.getElem?_eq_some_iff.1 hc).1), ?_⟩
    rw [View.moveTo_chart] at hm ⊢
    by_cases hr : c.moves.next.IsRefused
    · rw [Chart.moveTo_of_refused hr] at hm
      cases hm
    · rw [Chart.moveTo_of_not_refused hr]
      show c.axis.map _ = _
      rw [ha]
      rfl

/-- Which windows follow after all data was chosen. Samples come in and charts are drawn, in any
    order and whatever the calls answer. The chart that was chosen on goes on showing the window of
    the choice, its full window at that time widened to the shortest one that the group allows,
    until it gives it up for its full window, for good. It always shows its full window if that was
    finite and as long as the shortest one allowed at the time of the choice. If the widened window
    covered the full one and was near it, the visible window covers the full one from then on. -/
theorem all_keeps_following {g g' : Group} {h h' : H} {origin : Nat} {c : Chart} {a : Axis}
    {what : Outcome} (hc : g.charts[origin]? = some c) (ha : c.axis = some a)
    (hordered : a.full.Ordered) (hok : g.select h origin .all = (g', h', .ok what))
    {calls : List Action} (hlive : ∀ a ∈ calls, IsLive a) :
    ∃ d b, (g'.run h' calls).group.charts[origin]? = some d ∧ d.axis = some b ∧
      (b.visible.Same (a.full.widenedTo g.effectiveMinimum) ∨ b.visible.Same b.full) ∧
      (a.full.WellFormed → g.effectiveMinimum ≤ a.full.span → b.visible.Same b.full) ∧
      ((a.full.widenedTo g.effectiveMinimum).Near a.full Axis.tolerance →
        (a.full.widenedTo g.effectiveMinimum).Covers a.full → b.visible.Covers b.full) := by
  have hwide := hordered.widenedTo g.effectiveMinimum
  obtain ⟨chosen, hchosen, haxis⟩ := select_all_axis hc ha hok
  have hstart : ∃ c, g'.charts[origin]? = some c ∧
      c.Shows a.full (a.full.widenedTo g.effectiveMinimum) :=
    ⟨chosen, hchosen, _, haxis, .of_moveTo hordered hwide⟩
  obtain ⟨d, hd, b, hb, hsince⟩ :=
    live_run_at (fun index x c hs => hs.append index x) (fun c hs => hs.redraw) hstart h' hlive
  refine ⟨d, b, hd, hb, hsince.shown.imp_right And.right, fun hfull hlong => ?_,
    fun hnear hcovers => (hsince.nearly hnear hcovers).2⟩
  refine (hsince.exact hfull ?_).2
  rw [Window.widenedTo_of_long (Or.inr hlong)]
  exact .refl hordered

/-- A group of one chart, with samples at 0 and at 100. -/
def briefGroup (minimum : Binary64) : Group :=
  ⟨⟨"load"⟩, [⟨.standard, some ⟨⟨0, 100⟩, ⟨0, 100⟩⟩, [⟨"cpu", .line, none, #[⟨0, 1⟩, ⟨100, 1⟩]⟩], 0,
    .blank [], .ofRefused [], true⟩], false, minimum, .none⟩

/-- A sample beyond the data, and a drawing. -/
def lateSample : List Action := [.append 0 0 ⟨600, 1⟩, .redraw]

theorem all_keeps_following_brief :
    ∃ d b, (((briefGroup 100).select Trail.start 0 .all).1.run
        ((briefGroup 100).select Trail.start 0 .all).2.1 lateSample).group.charts[0]? = some d ∧
      d.axis = some b ∧ b.visible.Same b.full := by
  have hanswer : ((briefGroup 100).select Trail.start 0 .all).2.2 = .ok (.broadcast 0) := by
    decide +kernel
  have hok : (briefGroup 100).select Trail.start 0 .all =
      (((briefGroup 100).select Trail.start 0 .all).1,
        ((briefGroup 100).select Trail.start 0 .all).2.1, .ok (.broadcast 0)) := by rw [← hanswer]
  obtain ⟨d, b, hd, hb, -, hexact, -⟩ := all_keeps_following (rfl : (briefGroup 100).charts[0]? = _)
    rfl (by decide +kernel) hok (show ∀ a ∈ lateSample, IsLive a by decide)
  exact ⟨d, b, hd, hb, hexact (by decide +kernel) (by decide +kernel)⟩

/-- A chart whose data is shorter than the shortest window of its group stops following: all data is
    chosen, a sample comes in and is drawn, all of that succeeds, and the sample is not visible. -/
theorem all_stops_following :
    ¬ ∀ (g g' : Group) (h h' : Trail) (origin : Nat) (c : Chart) (a : Axis) (what : Outcome)
      (calls : List Action), g.charts[origin]? = some c → c.axis = some a → a.WellFormed →
      g.select h origin .all = (g', h', .ok what) → (∀ a ∈ calls, IsLive a) →
      (∀ r ∈ (g'.run h' calls).results, r.isOk = true) →
      ∀ d b, (g'.run h' calls).group.charts[origin]? = some d → d.axis = some b →
        b.visible.Covers b.full := by
  intro hall
  have hanswer : ((briefGroup 1000).select Trail.start 0 .all).2.2 = .ok (.broadcast 0) := by
    decide +kernel
  have hok : (briefGroup 1000).select Trail.start 0 .all =
      (((briefGroup 1000).select Trail.start 0 .all).1,
        ((briefGroup 1000).select Trail.start 0 .all).2.1, .ok (.broadcast 0)) := by rw [← hanswer]
  have haxis : (((briefGroup 1000).select Trail.start 0 .all).1.run
      ((briefGroup 1000).select Trail.start 0 .all).2.1 lateSample).group.charts[0]?.bind
        Chart.axis = some ⟨⟨0, 600⟩, ⟨-450, 550⟩⟩ := by
    decide +kernel
  obtain ⟨d, hd, hb⟩ := Option.bind_eq_some_iff.1 haxis
  have hcovers := hall _ _ _ _ _ _ _ _ _ (rfl : (briefGroup 1000).charts[0]? = _) rfl
    (by decide +kernel) hok (show ∀ a ∈ lateSample, IsLive a by decide) (by decide +kernel) d _
    hd hb
  exact absurd hcovers (by decide +kernel)

end Group

end LinkedCharts
