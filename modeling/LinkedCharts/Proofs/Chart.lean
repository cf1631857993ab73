import LinkedCharts.Chart.Basic
import LinkedCharts.Proofs.Window

/-!
# What holds of every chart

The settings of a chart are checked once, when it is made, and its axis only ever takes windows with
their ends in order. Both stay true through everything that is done with the chart.

Results:
* `Chart.Sound`: a checked minimum, and an axis with ordered windows.
* `Chart.make?_sound`, `Chart.moveTo_sound`, `Chart.append_sound`, `Chart.redraw_sound`: it holds of
  every chart.
* `Chart.moveTo_series`, `Chart.redraw_series`: neither moves nor drawings change the data.
* `Chart.Plain`, `Chart.moveTo_of_plain`: a chart that refuses no move, and what a move does to it.
-/

namespace LinkedCharts

theorem bind_eq_ok_iff {α β : Type} {x : Except Fault α} {f : α → Except Fault β} {b : β} :
    (x >>= f) = .ok b ↔ ∃ a, x = .ok a ∧ f a = .ok b := by
  cases x with
  | error e =>
    constructor
    · rintro ⟨⟩
    · rintro ⟨a, ⟨⟩, -⟩
  | ok a =>
    constructor
    · exact fun h => ⟨a, rfl, h⟩
    · rintro ⟨a', ⟨⟩, h⟩
      exact h

/-! ## Axes -/

namespace Axis

/-- Both windows have their ends in order. -/
structure Ordered (a : Axis) : Prop where
  full : a.full.Ordered
  visible : a.visible.Ordered

instance (a : Axis) : Decidable a.Ordered :=
  decidable_of_iff (a.full.Ordered ∧ a.visible.Ordered)
    ⟨fun h => ⟨h.1, h.2⟩, fun h => ⟨h.full, h.visible⟩⟩

theorem moveTo_ordered {a : Axis} (h : a.Ordered) {w : Window} (hw : w.Ordered) :
    (a.moveTo w).1.Ordered := by
  unfold moveTo
  split
  · exact h
  · exact ⟨h.full, hw⟩

theorem moveTo_full (a : Axis) (w : Window) : (a.moveTo w).1.full = a.full := by
  unfold moveTo
  split
  · rfl
  · rfl

/-- After a move the window is visible, apart from the sign of a zero. -/
theorem moveTo_visible (a : Axis) {w : Window} (hw : w.Ordered) :
    (a.moveTo w).1.visible.Same w := by
  unfold moveTo
  split
  · assumption
  · exact Window.Same.refl hw

theorem ofSamples?_ordered {series : List (List Sample)} {minimum : Binary64} {a : Axis}
    (h : ofSamples? series minimum = .ok a) : a.Ordered := by
  obtain ⟨data, hdata, h⟩ := bind_eq_ok_iff.1 h
  cases data with
  | none => cases h
  | some w =>
    cases h
    have hw : w.Ordered := by
      obtain ⟨⟨lo, hi⟩, -, hdata⟩ := bind_eq_ok_iff.1 hdata
      dsimp only at hdata
      split at hdata
      · cases hdata
      · obtain ⟨v, hv, hdata⟩ := bind_eq_ok_iff.1 hdata
        cases hdata
        exact (Window.make?_eq_ok_iff.1 hv).2.ordered
    exact ⟨hw.widenedTo minimum, hw.widenedTo minimum⟩

theorem growTo?_ordered {a b : Axis} {time : Binary64} {grew : Bool} (h : a.Ordered)
    (hb : a.growTo? time = .ok (b, grew)) : b.Ordered := by
  unfold growTo? at hb
  split at hb
  · cases hb
  · split at hb
    · cases hb
      exact h
    · obtain ⟨point, hpoint, hb⟩ := bind_eq_ok_iff.1 hb
      cases hb
      have := (Window.make?_eq_ok_iff.1 hpoint).2.ordered
      exact ⟨h.full.union this, h.visible⟩

end Axis

namespace Chart

/-! ## Sound charts -/

/-- The settings of the chart have a checked minimum, and its axis has ordered windows. -/
structure Sound (c : Chart) : Prop where
  minimum : IsMinimumSpan c.settings.minimumSpan
  axis : ∀ a ∈ c.axis, a.Ordered

instance (c : Chart) : Decidable c.Sound :=
  decidable_of_iff (IsMinimumSpan c.settings.minimumSpan ∧ ∀ a ∈ c.axis, a.Ordered)
    ⟨fun h => ⟨h.1, h.2⟩, fun h => ⟨h.minimum, h.axis⟩⟩

theorem axisOfData?_ordered {settings : ChartSettings} {series : List Series} {o : Option Axis}
    (h : axisOfData? settings series = .ok o) : ∀ a ∈ o, a.Ordered := by
  obtain ⟨data, -, h⟩ := bind_eq_ok_iff.1 h
  cases data with
  | none =>
    cases h
    rintro a ⟨⟩
  | some w =>
    obtain ⟨axis, haxis, h⟩ := bind_eq_ok_iff.1 h
    cases h
    rintro a ⟨⟩
    have := Axis.ofSamples?_ordered haxis
    exact Axis.moveTo_ordered this (Preset.resolve_ordered this.full _)

theorem check_eq_ok {settings checked : ChartSettings} (h : settings.check = .ok checked) :
    checked = settings ∧ IsMinimumSpan settings.minimumSpan := by
  obtain ⟨_, -, h⟩ := bind_eq_ok_iff.1 h
  split at h
  · cases h
    exact ⟨rfl, by assumption⟩
  · cases h

section Made

variable {settings : ChartSettings} {series : List Series} {canvas : Canvas} {moves : Calls}
  {limitsZoom : Bool} {c : Chart}

/-- A chart that is made has the settings and the series given, and the axis that they call for. -/
theorem make?_eq_ok (h : make? settings series canvas moves limitsZoom = .ok c) :
    c.settings = settings ∧ c.series = series ∧ IsMinimumSpan settings.minimumSpan ∧
      axisOfData? settings series = .ok c.axis := by
  obtain ⟨checked, hchecked, h⟩ := bind_eq_ok_iff.1 h
  obtain ⟨axis, haxis, h⟩ := bind_eq_ok_iff.1 h
  obtain ⟨hsame, hminimum⟩ := check_eq_ok hchecked
  cases h
  exact ⟨hsame, rfl, hminimum, hsame ▸ haxis⟩

/-- Every chart that is made is sound. -/
theorem make?_sound (h : make? settings series canvas moves limitsZoom = .ok c) : c.Sound := by
  obtain ⟨hsettings, -, hminimum, haxis⟩ := make?_eq_ok h
  exact ⟨hsettings ▸ hminimum, axisOfData?_ordered haxis⟩

end Made

/-- The chart after a move that it does not refuse. Only the axis shows another window, and the move
    is counted. -/
def shown (c : Chart) (w : Window) : Chart :=
  { c with axis := c.axis.map fun a => (a.moveTo w).1, moves := c.moves.next }

theorem shown_sound {c : Chart} (h : c.Sound) {w : Window} (hw : w.Ordered) :
    (c.shown w).Sound := by
  refine ⟨h.minimum, ?_⟩
  intro b hb
  obtain ⟨a, ha, rfl⟩ := Option.map_eq_some_iff.1 hb
  exact Axis.moveTo_ordered (h.axis a ha) hw

/-- A move that is refused is counted and does nothing else. -/
theorem moveTo_of_refused {c : Chart} (h : c.moves.next.IsRefused) (w : Window) :
    c.moveTo w =
      ({ c with moves := c.moves.next },
        .error (.invalidData (.moveRefused c.moves.next.made))) := by
  unfold moveTo
  dsimp only
  rw [if_pos h]

/-- A chart without an axis cannot move; with an axis, it moves unless it shows the window
    already. -/
theorem moveTo_of_not_refused {c : Chart} (h : ¬ c.moves.next.IsRefused) (w : Window) :
    c.moveTo w = (c.shown w,
      match c.axis with
      | none => .error .noTimeAxis
      | some a => .ok (a.moveTo w).2) := by
  unfold moveTo
  dsimp only
  rw [if_neg h]
  cases haxis : c.axis with
  | none => simp [shown, haxis]
  | some a => simp [shown, haxis]

theorem moveTo_sound {c : Chart} (h : c.Sound) {w : Window} (hw : w.Ordered) :
    (c.moveTo w).1.Sound := by
  by_cases hr : c.moves.next.IsRefused
  · rw [moveTo_of_refused hr]
    exact ⟨h.minimum, h.axis⟩
  · rw [moveTo_of_not_refused hr]
    exact shown_sound h hw

theorem append_leaves (c : Chart) (index : Nat) (x : Sample) :
    ∃ series, (c.append index x).1 = { c with series } := by
  unfold append
  split
  · exact ⟨_, rfl⟩
  · exact ⟨_, rfl⟩

theorem moveTo_leaves (c : Chart) (w : Window) :
    ∃ axis moves, (c.moveTo w).1 = { c with axis, moves } := by
  by_cases hr : c.moves.next.IsRefused
  · rw [moveTo_of_refused hr]
    exact ⟨_, _, rfl⟩
  · rw [moveTo_of_not_refused hr]
    exact ⟨_, _, rfl⟩

theorem append_axis (c : Chart) (index : Nat) (x : Sample) :
    (c.append index x).1.axis = c.axis := by
  obtain ⟨series, heq⟩ := c.append_leaves index x
  rw [heq]

theorem append_sound {c : Chart} (h : c.Sound) (index : Nat) (x : Sample) :
    (c.append index x).1.Sound := by
  obtain ⟨series, heq⟩ := c.append_leaves index x
  rw [heq]
  exact ⟨h.minimum, h.axis⟩

theorem growAxis?_ordered {a b : Axis} {grew grew' : Bool} {series : List Series} (h : a.Ordered)
    (hb : growAxis? a grew series = .ok (b, grew')) : b.Ordered := by
  induction series generalizing a grew with
  | nil =>
    cases hb
    exact h
  | cons s rest ih =>
    unfold growAxis? at hb
    split at hb
    · exact ih h hb
    · obtain ⟨⟨a', more⟩, ha', hb⟩ := bind_eq_ok_iff.1 hb
      exact ih (Axis.growTo?_ordered h ha') hb

/-- Following the data stops at a failure and then changes nothing, or fits an axis to the data, or
    grows the axis to it and possibly shows all of that. -/
theorem followData_cases (c : Chart) :
    (∃ f, c.followData = (c, .error f)) ∨
    (c.axis = none ∧ ∃ o, axisOfData? c.settings c.series = .ok o ∧
      c.followData = ({ c with axis := o }, .ok (o.map Axis.visible))) ∨
    (∃ a b after grew moved, c.axis = some a ∧ growAxis? a false c.series = .ok (b, grew) ∧
      (after = b ∨ after = (b.moveTo b.full).1) ∧
      c.followData = ({ c with axis := some after }, .ok moved)) := by
  unfold followData
  split
  · rename_i hnone
    split
    · exact Or.inl ⟨_, rfl⟩
    · rename_i o ho
      exact Or.inr (Or.inl ⟨hnone, o, ho, rfl⟩)
  · rename_i a ha
    split
    · exact Or.inl ⟨_, rfl⟩
    · rename_i b grew hb
      refine Or.inr (Or.inr ?_)
      by_cases hshow : (grew : Prop) ∧ a.ShowsAll
      · rw [if_pos hshow]
        exact ⟨a, b, _, grew, _, ha, hb, Or.inr rfl, rfl⟩
      · rw [if_neg hshow]
        exact ⟨a, b, _, grew, _, ha, hb, Or.inl rfl, rfl⟩

theorem followData_leaves (c : Chart) : ∃ axis, c.followData.1 = { c with axis } := by
  rcases followData_cases c with ⟨f, heq⟩ | ⟨-, o, -, heq⟩ | ⟨-, -, after, -, moved, -, -, -, heq⟩
  · rw [heq]
    exact ⟨_, rfl⟩
  · rw [heq]
    exact ⟨_, rfl⟩
  · rw [heq]
    exact ⟨_, rfl⟩

theorem followData_sound {c : Chart} (h : c.Sound) : c.followData.1.Sound := by
  rcases followData_cases c with ⟨f, heq⟩ | ⟨-, o, ho, heq⟩ |
    ⟨a, b, after, grew, moved, ha, hb, hafter, heq⟩
  · rw [heq]
    exact h
  · rw [heq]
    exact ⟨h.minimum, axisOfData?_ordered ho⟩
  · have hgrown := growAxis?_ordered (h.axis a ha) hb
    rw [heq]
    refine ⟨h.minimum, ?_⟩
    rintro d ⟨⟩
    rcases hafter with rfl | rfl
    · exact hgrown
    · exact Axis.moveTo_ordered hgrown hgrown.full

/-- Apart from what was drawn, drawing leaves the chart as it is after following its data. -/
theorem redraw_leaves (c : Chart) :
    ∃ canvas redraws, c.redraw.1 = { c.followData.1 with canvas, redraws } := by
  unfold redraw
  split
  · rename_i heq
    rw [heq]
    exact ⟨_, _, rfl⟩
  · rename_i heq
    rw [heq]
    split
    · exact ⟨_, _, rfl⟩
    · split
      · exact ⟨_, _, rfl⟩
      · exact ⟨_, _, rfl⟩

theorem redraw_sound {c : Chart} (h : c.Sound) : c.redraw.1.Sound := by
  have hf := followData_sound h
  obtain ⟨canvas, redraws, heq⟩ := c.redraw_leaves
  rw [heq]
  exact ⟨hf.minimum, hf.axis⟩

/-- A chart without series that shows all of a window, and the numbers of the moves that it
    refuses. -/
def showing (w : Window) (refused : List Nat) : Chart :=
  ⟨.standard, some ⟨w, w⟩, [], 0, .blank [], .ofRefused refused, true⟩

/-! ## The data stays -/

theorem moveTo_series (c : Chart) (w : Window) : (c.moveTo w).1.series = c.series := by
  obtain ⟨axis, moves, heq⟩ := c.moveTo_leaves w
  rw [heq]

theorem followData_series (c : Chart) : c.followData.1.series = c.series := by
  obtain ⟨axis, heq⟩ := c.followData_leaves
  rw [heq]

theorem redraw_series (c : Chart) : c.redraw.1.series = c.series := by
  obtain ⟨canvas, redraws, heq⟩ := c.redraw_leaves
  rw [heq]
  exact c.followData_series

/-! ## Plain charts -/

/-- Nothing outside the chart refuses its moves. -/
def Plain (c : Chart) : Prop := c.moves.refused = []

instance (c : Chart) : Decidable c.Plain := inferInstanceAs (Decidable (_ = _))

theorem shown_plain {c : Chart} (h : c.Plain) (w : Window) : (c.shown w).Plain := h

theorem append_plain {c : Chart} (h : c.Plain) (index : Nat) (x : Sample) :
    (c.append index x).1.Plain := by
  obtain ⟨series, heq⟩ := c.append_leaves index x
  rw [heq]
  exact h

theorem redraw_plain {c : Chart} (h : c.Plain) : c.redraw.1.Plain := by
  obtain ⟨canvas, redraws, heq⟩ := c.redraw_leaves
  obtain ⟨axis, hfollowed⟩ := c.followData_leaves
  rw [heq, hfollowed]
  exact h

theorem not_isRefused {c : Chart} (h : c.Plain) : ¬ c.moves.next.IsRefused :=
  Calls.not_isRefused_next h

/-- A plain chart cannot move without an axis; with an axis, it moves unless it shows the window
    already. -/
theorem moveTo_of_plain {c : Chart} (h : c.Plain) (w : Window) :
    c.moveTo w = (c.shown w,
      match c.axis with
      | none => .error .noTimeAxis
      | some a => .ok (a.moveTo w).2) :=
  moveTo_of_not_refused (not_isRefused h) w

@[simp] theorem shown_full? (c : Chart) (w : Window) : (c.shown w).full? = c.full? := by
  unfold shown full?
  cases c.axis with
  | none => rfl
  | some a => exact congrArg some (Axis.moveTo_full a w)

/-- A chart with an axis shows the window that it moved to. -/
theorem shown_visible? (c : Chart) {w v : Window} (hw : w.Ordered)
    (hv : (c.shown w).visible? = some v) : v.Same w := by
  unfold shown visible? at hv
  cases haxis : c.axis with
  | none =>
    rw [haxis] at hv
    cases hv
  | some a =>
    rw [haxis] at hv
    cases hv
    exact Axis.moveTo_visible a hw

end Chart

end LinkedCharts
