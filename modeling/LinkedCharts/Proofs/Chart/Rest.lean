import LinkedCharts.Proofs.Chart.Drawing

/-!
# Charts at rest

A drawing brings the axis of a chart in line with its data before it comes to the canvas, so that
the full window covers the newest sample of every series even if the canvas refuses the scene. This
lasts until a series accepts another sample; whatever window is made visible meanwhile, there is
nothing to follow, and a drawing does no more than hand its scene to the canvas.

Results:
* `Chart.Quiet`, `Chart.AtRest`: nothing was accepted since the chart was drawn.
* `Chart.Settled`, `Chart.Settled.run`: there is nothing to follow, and that stays so.
* `Chart.Still`, `Chart.AtRest.still`: what a drawing of a chart at rest does.
-/

namespace LinkedCharts

namespace Chart

variable {c d : Chart}

/-! ## Runs in which nothing is accepted -/

/-- A chart that was made over sorted series, and whatever a host did with it then. -/
def Reachable (c : Chart) : Prop :=
  ∃ settings series canvas moves limitsZoom made events, (∀ s ∈ series, s.Sorted) ∧
    make? settings series canvas moves limitsZoom = .ok made ∧ c = made.run events

/-- The event offers no sample that is accepted. -/
def BringsNothing (c : Chart) : Event → Prop
  | .append index x => ∀ s ∈ c.series[index]?, ¬ s.Accepts x
  | .moveTo _ | .redraw => True

instance (c : Chart) : DecidablePred c.BringsNothing := fun e =>
  match e with
  | .append .. => inferInstanceAs (Decidable (∀ s ∈ _, _))
  | .moveTo _ | .redraw => inferInstanceAs (Decidable True)

/-- None of the events offers a sample that is accepted. -/
def Quiet (c : Chart) : List Event → Prop
  | [] => True
  | e :: rest => c.BringsNothing e ∧ (c.act e).Quiet rest

instance decidableQuiet (c : Chart) : DecidablePred c.Quiet
  | [] => inferInstanceAs (Decidable True)
  | e :: rest =>
    have := decidableQuiet (c.act e) rest
    inferInstanceAs (Decidable (_ ∧ _))

/-- The chart was drawn, whether or not the canvas took the scene, and no sample was accepted since.
    An axis that was only made by that drawing covers what it was fitted to. -/
def AtRest (c : Chart) : Prop :=
  ∃ (drawn : Chart) (events : List Event), drawn.Reachable ∧ drawn.Keeps .redraw ∧
    drawn.redraw.1.Quiet events ∧ c = drawn.redraw.1.run events

theorem quiet_append {before after : List Event} :
    c.Quiet (before ++ after) ↔ c.Quiet before ∧ (c.run before).Quiet after := by
  induction before generalizing c with
  | nil => exact (and_iff_right trivial).symm
  | cons e rest ih =>
    show c.BringsNothing e ∧ (c.act e).Quiet (rest ++ after) ↔ _
    rw [ih, ← and_assoc]
    rfl

theorem Reachable.tracked (h : c.Reachable) : c.Tracked := by
  obtain ⟨_, _, _, _, _, made, events, hsorted, hmade, rfl⟩ := h
  exact (make?_tracked hsorted hmade).run events

/-- A chart stays at rest until it accepts a sample. -/
theorem AtRest.act (h : c.AtRest) {e : Event} (he : c.BringsNothing e) : (c.act e).AtRest := by
  obtain ⟨drawn, events, hreachable, hkeeps, hquiet, rfl⟩ := h
  refine ⟨drawn, events ++ [e], hreachable, hkeeps, quiet_append.2 ⟨hquiet, he, trivial⟩, ?_⟩
  unfold run
  rw [List.foldl_append]
  rfl

theorem Reachable.atRest (h : c.Reachable) (hkeeps : c.Keeps .redraw) : c.redraw.1.AtRest :=
  ⟨c, [], h, hkeeps, trivial, rfl⟩

/-! ## Nothing to follow -/

/-- The newest samples are covered, and there are none without an axis. -/
structure Settled (c : Chart) : Prop where
  tracked : c.Tracked
  current : c.Current
  vacant : c.axis = none → c.IsVacant

theorem full?_eq_none_iff : c.full? = none ↔ c.axis = none := Option.map_eq_none_iff

theorem Current.of_same (h : c.Current) (hseries : d.series = c.series)
    (hfull : d.full? = c.full?) : d.Current := by
  unfold Current
  rw [hseries, hfull]
  exact h

/-- The visible window and the canvas do not matter. -/
theorem Settled.of_same (h : c.Settled) (hseries : d.series = c.series)
    (hfull : d.full? = c.full?) : d.Settled where
  tracked := h.tracked.of_same hseries hfull
  current := h.current.of_same hseries hfull
  vacant := by
    intro hnone
    have hbefore : c.axis = none := by rwa [← full?_eq_none_iff, ← hfull, full?_eq_none_iff]
    refine ⟨hnone, ?_⟩
    rw [hseries]
    exact (h.vacant hbefore).2

/-- An axis that covers the newest samples does not grow. -/
theorem growAxis?_of_covered {a : Axis} {series : List Series}
    (h : ∀ s ∈ series, ∀ last ∈ s.lastTime?, last.isFinite = true ∧ a.full.Contains last)
    (grew : Bool) : growAxis? a grew series = .ok (a, grew) := by
  induction series with
  | nil => rfl
  | cons s rest ih =>
    obtain ⟨hs, hrest⟩ := List.forall_mem_cons.1 h
    unfold growAxis?
    cases hlast : s.lastTime? with
    | none => exact ih hrest
    | some last =>
      obtain ⟨hfinite, hcovered⟩ := hs last hlast
      have hkept : a.growTo? last = .ok (a, false) := by
        unfold Axis.growTo?
        rw [if_neg (not_not.2 hfinite), if_pos hcovered]
      dsimp only
      rw [hkept]
      show growAxis? a (grew || false) rest = _
      rw [Bool.or_false]
      exact ih hrest

/-- There is nothing to follow. -/
theorem Settled.followData_eq (h : c.Settled) : c.followData = (c, .ok none) := by
  have hfinite : ∀ s ∈ c.series, ∀ x ∈ s.samples, x.time.isFinite = true :=
    fun s hs x hx => (h.tracked.series s hs).finite x hx
  unfold Chart.followData
  cases haxis : c.axis with
  | none =>
    obtain ⟨axis, hdata, hnone⟩ := axisOfData?_of_finite c.settings hfinite
    obtain rfl := hnone.2 (h.vacant haxis).2
    have hsame : { c with axis := none } = c := by rw [← haxis]
    dsimp only
    rw [hdata]
    exact congrArg (·, _) hsame
  | some a =>
    have hcovered : ∀ s ∈ c.series, ∀ last ∈ s.lastTime?,
        last.isFinite = true ∧ a.full.Contains last := by
      intro s hs last hlast
      obtain ⟨x, hx, rfl⟩ := Option.map_eq_some_iff.1 hlast
      exact ⟨hfinite s hs x (Array.mem_of_back? hx),
        h.current _ (full?_of_axis haxis) s hs x.time hlast⟩
    have hsame : { c with axis := some a } = c := by rw [← haxis]
    dsimp only
    rw [growAxis?_of_covered hcovered]
    exact congrArg (·, _) hsame

/-- What a drawing has followed is settled, whatever the canvas answers. -/
theorem Tracked.redraw_settled (h : c.Tracked) (hkeeps : c.Keeps .redraw) :
    c.redraw.1.Settled := by
  obtain ⟨axis, moved, hfollowed, hvacant⟩ := h.followData_eq
  have hcurrent := h.followData_current hkeeps (congrArg Prod.snd hfollowed)
  have hsettled : c.followData.1.Settled := by
    refine ⟨h.followData, hcurrent, ?_⟩
    rw [hfollowed]
    exact fun hnone => ⟨hnone, (hvacant.1 hnone).2⟩
  exact hsettled.of_same (c.redraw_series.trans c.followData_series.symm) c.redraw_full?

theorem append_of_bringsNothing {index : Nat} {x : Sample} (h : c.BringsNothing (.append index x)) :
    (c.append index x).1 = c := by
  cases hs : c.series[index]? with
  | none => exact append_of_none hs x
  | some s =>
    obtain ⟨hi, rfl⟩ := List.getElem?_eq_some_iff.1 hs
    rw [append_of_getElem? hs, Series.append_of_not_accepts (h _ hs), List.set_getElem_self]

/-- What is settled stays so until a sample is accepted. -/
theorem Settled.act (h : c.Settled) {e : Event} (he : c.BringsNothing e) : (c.act e).Settled := by
  cases e with
  | append index x =>
    show (c.append index x).1.Settled
    rw [append_of_bringsNothing he]
    exact h
  | moveTo w => exact h.of_same (c.moveTo_series w) (c.moveTo_full? w)
  | redraw =>
    refine h.of_same c.redraw_series ?_
    show c.redraw.1.full? = c.full?
    rw [redraw_full?, h.followData_eq]

theorem Settled.run (h : c.Settled) {events : List Event} (hquiet : c.Quiet events) :
    (c.run events).Settled := by
  induction events generalizing c with
  | nil => exact h
  | cons e rest ih => exact ih (h.act hquiet.1) hquiet.2

theorem AtRest.settled (h : c.AtRest) : c.Settled := by
  obtain ⟨drawn, events, hreachable, hkeeps, hquiet, rfl⟩ := h
  exact (hreachable.tracked.redraw_settled hkeeps).run hquiet

/-! ## Drawings at rest -/

/-- A drawing hands the scene to the canvas, which shows it if it takes it. -/
structure Draws (c : Chart) (s : Scene) : Prop where
  canvas : c.redraw.1.canvas = (c.canvas.draw s).1
  shown : ∀ moved, c.redraw.2 = .ok moved → c.redraw.1.canvas.last = some s

/-- A drawing of a settled chart does nothing else. -/
theorem Settled.redraw_eq (h : c.Settled) {a : Axis} (ha : c.axis = some a) :
    ∃ redraws answer, c.redraw =
      ({ c with canvas := (c.canvas.draw (c.scene a.visible)).1, redraws }, answer) ∧
      ∀ moved, answer = .ok moved →
        moved = none ∧ (c.canvas.draw (c.scene a.visible)).2 = .ok () := by
  unfold redraw
  rw [h.followData_eq]
  dsimp only
  rw [ha]
  dsimp only
  rcases c.canvas.draw (c.scene a.visible) with ⟨canvas, f | ⟨⟩⟩
  · refine ⟨c.redraws, .error f, by rw [← ha], fun _ hok => ?_⟩
    cases hok
  · exact ⟨c.redraws + 1, .ok none, by rw [← ha], fun _ hok => ⟨(Except.ok.inj hok).symm, rfl⟩⟩

theorem Settled.redraw_of_no_axis (h : c.Settled) (hnone : c.axis = none) :
    c.redraw = (c, .ok none) := by
  unfold redraw
  rw [h.followData_eq]
  dsimp only
  rw [hnone]

theorem Settled.draws (h : c.Settled) {v : Window} (hv : v ∈ c.visible?) :
    c.Draws (c.scene v) := by
  obtain ⟨a, ha, rfl⟩ := Option.map_eq_some_iff.1 hv
  obtain ⟨redraws, answer, heq, hanswer⟩ := h.redraw_eq ha
  refine ⟨by rw [heq], fun moved hok => ?_⟩
  rw [heq] at hok ⊢
  have hdrawn : c.canvas.draw (c.scene a.visible) =
      ((c.canvas.draw (c.scene a.visible)).1, .ok ()) := Prod.ext rfl (hanswer moved hok).2
  rw [Canvas.draw_of_ok hdrawn]

/-- A drawing leaves both windows as they are, tells of none, and hands the same scene to the canvas
    as the drawing after it. Without an axis it does nothing at all. -/
structure Still (c : Chart) : Prop where
  axis : c.redraw.1.axis = c.axis
  series : c.redraw.1.series = c.series
  silent : ∀ moved, c.redraw.2 = .ok moved → moved = none
  scene : ∀ v ∈ c.visible?, c.Draws (c.scene v) ∧ c.redraw.1.Draws (c.scene v)
  blank : c.visible? = none → c.redraw = (c, .ok none)

theorem Settled.still (h : c.Settled) : c.Still := by
  cases haxis : c.axis with
  | none =>
    have heq := h.redraw_of_no_axis haxis
    have hvisible : c.visible? = none := congrArg (Option.map Axis.visible) haxis
    refine ⟨by rw [heq], by rw [heq], fun moved hok => ?_, fun v hv => ?_, fun _ => heq⟩
    · rw [heq] at hok
      exact (Except.ok.inj hok).symm
    · rw [hvisible] at hv
      cases hv
  | some a =>
    obtain ⟨redraws, answer, heq, hanswer⟩ := h.redraw_eq haxis
    have hvisible : c.visible? = some a.visible := congrArg (Option.map Axis.visible) haxis
    have hagain : c.redraw.1.Settled := h.act (e := .redraw) trivial
    refine ⟨by rw [heq], by rw [heq], fun moved hok => ?_, fun v hv => ⟨h.draws hv, ?_⟩,
      fun hnone => ?_⟩
    · rw [heq] at hok
      exact (hanswer moved hok).1
    · -- the scene depends on nothing that a drawing changes
      have hsame : c.redraw.1.scene v = c.scene v := by
        rw [heq]
        rfl
      rw [← hsame]
      refine hagain.draws ?_
      rw [heq]
      exact hv
    · rw [hvisible] at hnone
      cases hnone

theorem AtRest.still (h : c.AtRest) : c.Still := h.settled.still

end Chart

end LinkedCharts
