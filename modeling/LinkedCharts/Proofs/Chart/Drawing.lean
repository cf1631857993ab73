import LinkedCharts.Proofs.Chart.Coverage
import LinkedCharts.Proofs.Series.Slice

/-!
# What a drawing shows

A chart builds its scene out of what it holds: the size from its settings, and of every series the
samples that two binary searches cut out. The canvas checks the scene by other means, sample by
sample. A chart that was made never builds one that the check refuses: its settings have an area,
its series are in ascending order and finite, and its axis never has a NaN for an end.

Results:
* `Canvas.draw_of_check`: what a canvas that refuses nothing does with a scene.
* `Chart.Tracked.followData_eq`: finite data is always followed.
* `Chart.Drawable`, `Chart.Drawable.run`: what holds of a chart through every run.
* `Chart.Drew`, `Chart.redraw_exact`: a drawing answers, and shows just the samples that lie in the
  visible window.
-/

namespace LinkedCharts

/-! ## Scenes and canvases -/

theorem PixelSize.check_eq_ok_iff {size : PixelSize} : size.check = .ok () ↔ size.IsDrawable := by
  unfold check
  split
  · exact ⟨fun _ => by assumption, fun _ => rfl⟩
  · rename_i h
    exact ⟨nofun, fun hsize => absurd hsize h⟩

/-- A scene passes if it has an area to draw on and no layer leaves its window. -/
theorem Scene.check_of_holds {s : Scene} (hsize : s.size.IsDrawable)
    (hlayers : ∀ l ∈ s.layers, Holds s.window l) : s.check = .ok () := by
  have hnone : s.layers.find? (fun l => ¬ Holds s.window l) = none := by
    rw [List.find?_eq_none]
    intro l hl
    rw [decide_eq_true_iff, not_not]
    exact hlayers l hl
  unfold check
  rw [PixelSize.check_eq_ok_iff.2 hsize, hnone]
  rfl

theorem Scene.sampleCount_eq (s : Scene) :
    s.sampleCount = (s.layers.map fun l => l.samples.size).sum := List.sum_eq_foldl_nat.symm

/-- A canvas that refuses nothing draws every scene that passes the check. -/
theorem Canvas.draw_of_check {canvas : Canvas} (h : canvas.calls.refused = []) {s : Scene}
    (hs : s.check = .ok ()) :
    canvas.draw s = (⟨canvas.calls.next, canvas.drawn + 1, some s⟩, .ok ()) := by
  unfold draw
  dsimp only
  rw [if_neg (Calls.not_isRefused_next h), hs]

/-- A canvas that draws a scene shows it. -/
theorem Canvas.draw_of_ok {canvas after : Canvas} {s : Scene}
    (h : canvas.draw s = (after, .ok ())) :
    after = ⟨canvas.calls.next, canvas.drawn + 1, some s⟩ := by
  unfold draw at h
  dsimp only at h
  split at h
  · cases h
  · split at h
    · cases h
    · cases h
      rfl

namespace Chart

variable {c : Chart}

/-- The scene of a chart whose series are in order: of every series what lies in the window. -/
theorem scene_eq (hseries : ∀ s ∈ c.series, s.Ascending) {w : Window} (hlo : w.lo ≠ .nan) :
    c.scene w = ⟨c.settings.size, c.settings.title, w, c.series.map fun s =>
      ⟨s.name, s.kind, (s.samples.toList.filter fun x => w.Contains x.time).toArray⟩⟩ := by
  unfold scene
  congr 1
  apply List.map_congr_left
  intro s hs
  rw [← Series.inWindow_toList (hseries s hs).chronological hlo, Array.toArray_toList]

/-- The scene that a chart builds passes the check. -/
theorem scene_check (hsize : c.settings.size.IsDrawable) (hseries : ∀ s ∈ c.series, s.Ascending)
    {w : Window} (hlo : w.lo ≠ .nan) : (c.scene w).check = .ok () := by
  rw [scene_eq hseries hlo]
  apply Scene.check_of_holds hsize
  intro l hl x hx
  obtain ⟨s, -, rfl⟩ := List.mem_map.1 hl
  rw [List.mem_toArray] at hx
  exact of_decide_eq_true (List.mem_filter.1 hx).2

/-- A scene counts the samples of all series that lie in its window. -/
theorem scene_sampleCount (hseries : ∀ s ∈ c.series, s.Ascending) {w : Window}
    (hlo : w.lo ≠ .nan) :
    (c.scene w).sampleCount =
      (c.series.map fun s => s.samples.toList.countP fun x => w.Contains x.time).sum := by
  rw [scene_eq hseries hlo, Scene.sampleCount_eq, List.map_map]
  congr 1
  apply List.map_congr_left
  intro s _
  rw [List.countP_eq_length_filter]
  rfl

/-! ## Following the data -/

/-- The chart has neither an axis nor a sample. -/
def IsVacant (c : Chart) : Prop := c.axis = none ∧ ∀ s ∈ c.series, s.samples = #[]

instance (c : Chart) : Decidable c.IsVacant := inferInstanceAs (Decidable (_ ∧ _))

/-- Data with finite times is always followed, by the axis alone. Only a vacant chart is left
    without one. -/
theorem Tracked.followData_eq (h : c.Tracked) :
    ∃ axis moved, c.followData = ({ c with axis }, .ok moved) ∧ (axis = none ↔ c.IsVacant) := by
  have hfinite : ∀ s ∈ c.series, ∀ x ∈ s.samples, x.time.isFinite = true :=
    fun s hs x hx => (h.series s hs).finite x hx
  unfold Chart.followData
  cases haxis : c.axis with
  | none =>
    obtain ⟨o, ho, hnone⟩ := axisOfData?_of_finite c.settings hfinite
    dsimp only
    rw [ho]
    exact ⟨o, _, rfl, hnone.trans ⟨fun hempty => ⟨haxis, hempty⟩, And.right⟩⟩
  | some a =>
    have hlast : ∀ s ∈ c.series, ∀ last ∈ s.lastTime?, last.isFinite = true := by
      intro s hs last hlast
      obtain ⟨x, hx, rfl⟩ := Option.map_eq_some_iff.1 hlast
      exact hfinite s hs x (Array.mem_of_back? hx)
    obtain ⟨b, grew, hb⟩ := growAxis?_of_finite a false hlast
    dsimp only
    rw [hb]
    exact ⟨_, _, rfl, nofun, fun hvacant => absurd (haxis.symm.trans hvacant.1) nofun⟩

/-! ## Charts that can be drawn -/

/-- What drawing relies on: an area to draw on, series and an axis in order, and a canvas that
    refuses nothing. The canvas counts the drawings of the chart on top of those that were `given`
    with it. -/
structure Drawable (given : Nat) (c : Chart) : Prop where
  size : c.settings.size.IsDrawable
  tracked : c.Tracked
  sound : c.Sound
  accepts : c.canvas.calls.refused = []
  counted : c.canvas.drawn = given + c.redraws

/-- The chart after a drawing with an axis, on a canvas that refuses nothing. -/
def drawnWith (c : Chart) (a : Axis) : Chart :=
  { c with
    axis := some a
    canvas := ⟨c.canvas.calls.next, c.canvas.drawn + 1, some (c.scene a.visible)⟩
    redraws := c.redraws + 1 }

variable {given : Nat}

/-- A drawing always answers. It does nothing to a vacant chart, and draws any other one. -/
theorem Drawable.redraw_eq (h : c.Drawable given) :
    c.IsVacant ∧ c.redraw = (c, .ok none) ∨
    ¬ c.IsVacant ∧ ∃ a moved, a.Ordered ∧ c.redraw = (c.drawnWith a, .ok moved) := by
  obtain ⟨axis, moved, hfollowed, hnone⟩ := h.tracked.followData_eq
  have hsound := followData_sound h.sound
  rw [hfollowed] at hsound
  unfold redraw
  rw [hfollowed]
  cases axis with
  | none =>
    have hvacant := hnone.1 rfl
    have hsame : { c with axis := none } = c := by rw [← hvacant.1]
    exact Or.inl ⟨hvacant, congrArg (·, _) hsame⟩
  | some a =>
    have ha := hsound.axis a rfl
    have hcheck := scene_check h.size h.tracked.series ha.visible.lo_ne_nan
    have hdraw : c.canvas.draw (({ c with axis := some a } : Chart).scene a.visible) = _ :=
      Canvas.draw_of_check h.accepts hcheck
    refine Or.inr ⟨fun hvacant => absurd (hnone.2 hvacant) nofun, a, moved, ha, ?_⟩
    dsimp only
    rw [hdraw]
    rfl

/-- The windows that the event moves to have their ends in order. -/
def Event.Ordered : Event → Prop
  | .moveTo w => w.Ordered
  | .append .. | .redraw => True

instance : DecidablePred Event.Ordered := fun e =>
  match e with
  | .moveTo w => inferInstanceAs (Decidable w.Ordered)
  | .append .. => inferInstanceAs (Decidable True)
  | .redraw => inferInstanceAs (Decidable True)

/-- Every event keeps what drawing relies on. -/
theorem Drawable.act (h : c.Drawable given) {e : Event} (he : e.Ordered) :
    (c.act e).Drawable given := by
  have htracked := h.tracked.act e
  cases e with
  | append index x =>
    have hsound : (c.append index x).1.Sound := append_sound h.sound index x
    change (c.append index x).1.Tracked at htracked
    show (c.append index x).1.Drawable given
    obtain ⟨series, heq⟩ := c.append_leaves index x
    rw [heq] at htracked hsound ⊢
    exact ⟨h.size, htracked, hsound, h.accepts, h.counted⟩
  | moveTo w =>
    have hsound : (c.moveTo w).1.Sound := moveTo_sound h.sound he
    change (c.moveTo w).1.Tracked at htracked
    show (c.moveTo w).1.Drawable given
    obtain ⟨axis, moves, heq⟩ := c.moveTo_leaves w
    rw [heq] at htracked hsound ⊢
    exact ⟨h.size, htracked, hsound, h.accepts, h.counted⟩
  | redraw =>
    have hsound : c.redraw.1.Sound := redraw_sound h.sound
    change c.redraw.1.Tracked at htracked
    show c.redraw.1.Drawable given
    rcases h.redraw_eq with ⟨-, heq⟩ | ⟨-, a, moved, -, heq⟩
    · rw [heq]
      exact h
    · rw [heq] at htracked hsound ⊢
      exact ⟨h.size, htracked, hsound, h.accepts, congrArg (· + 1) h.counted⟩

theorem Drawable.run (h : c.Drawable given) {events : List Event}
    (hevents : ∀ e ∈ events, e.Ordered) : (c.run events).Drawable given := by
  induction events generalizing c with
  | nil => exact h
  | cons e rest ih =>
    obtain ⟨he, hrest⟩ := List.forall_mem_cons.1 hevents
    exact ih (h.act he) hrest

section Made

variable {settings : ChartSettings} {series : List Series} {canvas : Canvas} {moves : Calls}
  {limitsZoom : Bool}

/-- A chart that is made over sorted series, on a canvas that refuses nothing, can be drawn. -/
theorem make?_drawable (hsorted : ∀ s ∈ series, s.Sorted) (haccepts : canvas.calls.refused = [])
    (hmade : make? settings series canvas moves limitsZoom = .ok c) :
    c.Drawable canvas.drawn := by
  have htracked := make?_tracked hsorted hmade
  have hsound := make?_sound hmade
  obtain ⟨checked, hchecked, hrest⟩ := bind_eq_ok_iff.1 hmade
  obtain ⟨axis, -, hc⟩ := bind_eq_ok_iff.1 hrest
  obtain ⟨⟨⟩, hsize, -⟩ := bind_eq_ok_iff.1 hchecked
  obtain ⟨rfl, -⟩ := check_eq_ok hchecked
  cases hc
  exact ⟨PixelSize.check_eq_ok_iff.1 hsize, htracked, hsound, haccepts, rfl⟩

/-! ## Drawings -/

/-- The chart was drawn once, with a window. The canvas shows one layer for each of the series, in
    their order, of just the samples that lie in the window. -/
structure Drew (before after : Chart) (w : Window) : Prop where
  redraws : after.redraws = before.redraws + 1
  drawn : after.canvas.drawn = before.canvas.drawn + 1
  last : after.canvas.last = some ⟨before.settings.size, before.settings.title, w,
    before.series.map fun s =>
      ⟨s.name, s.kind, (s.samples.toList.filter fun x => w.Contains x.time).toArray⟩⟩
  sampleCount : after.canvas.sampleCount =
    (before.series.map fun s => s.samples.toList.countP fun x => w.Contains x.time).sum
  series : after.series = before.series

theorem Drawable.drew (h : c.Drawable given) {a : Axis} (ha : a.Ordered) :
    Drew c (c.drawnWith a) a.visible where
  redraws := rfl
  drawn := rfl
  last := congrArg some (scene_eq h.tracked.series ha.visible.lo_ne_nan)
  sampleCount := scene_sampleCount h.tracked.series ha.visible.lo_ne_nan
  series := rfl

/-- A drawing after any run of a chart that was made over sorted series, on a canvas that refuses
    nothing. It always answers. It leaves a chart without an axis just if there is no data, and then
    as it was; otherwise the canvas shows just what lies in the window that is visible now. The
    drawings of the chart are those that the canvas counts. -/
theorem redraw_exact (hsorted : ∀ s ∈ series, s.Sorted) (haccepts : canvas.calls.refused = [])
    (hmade : make? settings series canvas moves limitsZoom = .ok c) {events : List Event}
    (hevents : ∀ e ∈ events, e.Ordered) :
    let before := c.run events
    let after := before.redraw.1
    (∃ moved, before.redraw.2 = .ok moved) ∧
    before.canvas.drawn = canvas.drawn + before.redraws ∧
    after.canvas.drawn = canvas.drawn + after.redraws ∧
    (after.axis = none ↔ before.IsVacant) ∧
    (after.axis = none → before.redraw = (before, .ok none)) ∧
    ∀ w ∈ after.visible?, Drew before after w := by
  intro before after
  have hbefore : before.Drawable canvas.drawn := (make?_drawable hsorted haccepts hmade).run hevents
  have hafter : after.Drawable canvas.drawn := hbefore.act (e := .redraw) trivial
  refine ⟨?_, hbefore.counted, hafter.counted, ?_⟩
  · rcases hbefore.redraw_eq with ⟨-, heq⟩ | ⟨-, a, moved, -, heq⟩
    · exact ⟨_, congrArg Prod.snd heq⟩
    · exact ⟨_, congrArg Prod.snd heq⟩
  · rcases hbefore.redraw_eq with ⟨hvacant, heq⟩ | ⟨hnot, a, moved, ha, heq⟩
    · have hsame : after = before := congrArg Prod.fst heq
      rw [hsame]
      refine ⟨⟨fun _ => hvacant, fun _ => hvacant.1⟩, fun _ => heq, ?_⟩
      intro w hw
      rw [visible?, hvacant.1] at hw
      cases hw
    · have hdrawn : after = before.drawnWith a := congrArg Prod.fst heq
      rw [hdrawn]
      refine ⟨⟨nofun, fun hvacant => absurd hvacant hnot⟩, nofun, ?_⟩
      rintro w ⟨⟩
      exact hbefore.drew ha

end Made

/-- A sample that is refused, a zoom, a drawing, and a sample behind the visible window. -/
def zoomedEvents : List Event :=
  [.append 1 ⟨.nan, 1⟩, .moveTo ⟨150, 200⟩, .redraw, .append 0 ⟨250, 1⟩]

theorem redraw_exact_zoomed :
    Drew (lopsided.run zoomedEvents) (lopsided.run zoomedEvents).redraw.1 ⟨150, 200⟩ ∧
      (lopsided.run zoomedEvents).redraw.1.redraws = 2 ∧
      (lopsided.run zoomedEvents).redraw.1.canvas.sampleCount = 1 := by
  have hordered : ∀ e ∈ zoomedEvents, e.Ordered := by decide +kernel
  obtain ⟨-, -, -, -, -, hdrew⟩ := redraw_exact (by decide +kernel) rfl lopsided_made hordered
  exact ⟨hdrew _ (by decide +kernel), by decide +kernel, by decide +kernel⟩

end Chart

end LinkedCharts
