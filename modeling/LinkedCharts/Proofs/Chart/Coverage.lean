import LinkedCharts.Proofs.Axis
import LinkedCharts.Proofs.Series.Ascending

/-!
# What a chart's axis covers

A host offers samples to the series of a chart, moves its window and draws it, in any order. Drawing
fits the axis to all data once, and from then on only grows it to the newest sample of every series.
A series that holds nothing when the axis is fitted and then takes two samples before the next
drawing leaves the older one out; and the first fit can lose an end to the rounding of its centre.
Nothing else is left out.

The invariant follows the oldest sample of each series: it is covered, unless it is the newest one
as well and the next drawing will see to it.

Results:
* `Chart.Event`, `Chart.run`: what a host does with a chart.
* `Chart.Covered`: every sample lies in the full window.
* `Chart.Paced`: nothing gets in that a drawing would leave out.
* `Chart.redraw_covers`: what is covered after a drawing, and that a paced run leaves nothing out.
-/

namespace LinkedCharts

namespace Chart

variable {c : Chart}

/-! ## Runs -/

/-- What a host does with a chart. -/
inductive Event
  | append (index : Nat) (x : Sample)
  | moveTo (w : Window)
  | redraw

/-- The chart after an event, whatever it answered. -/
def act (c : Chart) : Event → Chart
  | .append index x => (c.append index x).1
  | .moveTo w => (c.moveTo w).1
  | .redraw => c.redraw.1

/-- The chart after events in order. -/
def run (c : Chart) (events : List Event) : Chart := events.foldl act c

/-! ## Coverage -/

/-- Every sample of every series lies in the full window, so that there is one if there is data. -/
def Covered (c : Chart) : Prop :=
  ∀ s ∈ c.series, ∀ x ∈ s.samples, ∃ w ∈ c.full?, w.Contains x.time

instance (c : Chart) : Decidable c.Covered :=
  inferInstanceAs (Decidable (∀ s ∈ c.series, ∀ x ∈ s.samples, ∃ w ∈ c.full?, _))

/-- Fitting an axis to the data of series loses none of it. -/
def FitsAll (settings : ChartSettings) (series : List Series) : Prop :=
  ∀ w ∈ (extent? (series.map fun s => s.samples.toList)).toOption.join,
    (w.widenedTo settings.minimumSpan).Covers w

instance (settings : ChartSettings) (series : List Series) : Decidable (FitsAll settings series) :=
  inferInstanceAs (Decidable (∀ w ∈ _, _))

/-- A fit loses nothing if the data is at least as long as the minimum, or shorter than half of
    it. -/
theorem fitsAll_of_room {settings : ChartSettings} {series : List Series}
    (h : ∀ w ∈ (extent? (series.map fun s => s.samples.toList)).toOption.join,
      settings.minimumSpan ≤ w.span ∨ w.span < settings.minimumSpan.half) :
    FitsAll settings series := by
  intro w hw
  have hextent : extent? (series.map fun s => s.samples.toList) = .ok (some w) := by
    cases hdata : extent? (series.map fun s => s.samples.toList) with
    | error f =>
      rw [hdata] at hw
      cases hw
    | ok data =>
      rw [hdata] at hw
      exact congrArg _ hw
  exact (extent?_wellFormed hextent).ordered.widenedTo_covers (h w hw)

/-- The event lets nothing in that the next drawing would leave out: no series that has taken its
    first sample since the last drawing, outside of the full window, takes a second one; and an axis
    that is fitted covers what it is fitted to. -/
def Keeps (c : Chart) : Event → Prop
  | .append index x => ∀ w ∈ c.full?, ∀ s ∈ c.series[index]?, s.Accepts x → s.samples.size = 1 →
      ∀ first ∈ s.firstTime?, w.Contains first
  | .moveTo _ => True
  | .redraw => c.axis = none → FitsAll c.settings c.series

instance (c : Chart) : DecidablePred c.Keeps := fun e =>
  match e with
  | .append .. => inferInstanceAs (Decidable (∀ w ∈ c.full?, ∀ s ∈ _, _ → _ → ∀ first ∈ _, _))
  | .moveTo _ => inferInstanceAs (Decidable True)
  | .redraw => inferInstanceAs (Decidable (_ → _))

/-- None of the events lets anything in that a drawing would leave out. -/
def Paced (c : Chart) : List Event → Prop
  | [] => True
  | e :: rest => c.Keeps e ∧ (c.act e).Paced rest

instance decidablePaced (c : Chart) : DecidablePred c.Paced
  | [] => inferInstanceAs (Decidable True)
  | e :: rest =>
    have := decidablePaced (c.act e) rest
    inferInstanceAs (Decidable (_ ∧ _))

/-! ## The invariant -/

/-- The series are in ascending order, and the ends of the full window as well. -/
structure Tracked (c : Chart) : Prop where
  series : ∀ s ∈ c.series, s.Ascending
  full : ∀ w ∈ c.full?, w.Ordered

/-- The full window covers the oldest sample of every series that holds more than one. -/
def Caught (c : Chart) : Prop :=
  ∀ w ∈ c.full?, ∀ s ∈ c.series, 1 < s.samples.size → ∀ first ∈ s.firstTime?, w.Contains first

/-- The full window covers the newest sample of every series. -/
def Current (c : Chart) : Prop :=
  ∀ w ∈ c.full?, ∀ s ∈ c.series, ∀ last ∈ s.lastTime?, w.Contains last

/-- An axis that is fitted to series has a full window if there is data, and it covers all of that
    unless the fit loses some. -/
theorem axisOfData?_covers {settings : ChartSettings} {series : List Series} {o : Option Axis}
    (h : axisOfData? settings series = .ok o) :
    (∀ w ∈ o.map Axis.full, w.Ordered) ∧
      ∀ s ∈ series, ∀ x ∈ s.samples, x.time.isFinite = true ∧
        ∃ w ∈ o.map Axis.full, FitsAll settings series → w.Contains x.time := by
  obtain ⟨data, hdata, rfl⟩ := axisOfData?_eq_ok h
  constructor
  · intro w hw
    obtain ⟨a, ha, rfl⟩ := Option.map_eq_some_iff.1 hw
    obtain ⟨v, rfl, rfl⟩ := Option.map_eq_some_iff.1 ha
    rw [fitted_full]
    exact (extent?_wellFormed hdata).ordered.widenedTo _
  · intro s hs x hx
    obtain ⟨hfinite, v, rfl, hv⟩ := extent?_eq_ok hdata _ (List.mem_map_of_mem hs) x
      (Array.mem_toList_iff.2 hx)
    refine ⟨hfinite, _, rfl, ?_⟩
    intro hfits
    rw [fitted_full]
    exact (hfits v (by rw [hdata]; rfl)).contains hv

/-! ## Following the data -/

theorem full?_of_axis {a : Axis} (h : c.axis = some a) : c.full? = some a.full := by
  rw [full?, h, Option.map_some]

/-- What following the data does to the full window. -/
theorem followData_full? (c : Chart) :
    (c.followData.1 = c ∧ ∃ f, c.followData.2 = .error f) ∨
    (c.axis = none ∧ ∃ o, axisOfData? c.settings c.series = .ok o ∧
      c.followData.1.full? = o.map Axis.full) ∨
    (∃ a b grew, c.axis = some a ∧ growAxis? a false c.series = .ok (b, grew) ∧
      c.followData.1.full? = some b.full) := by
  rcases followData_cases c with ⟨f, heq⟩ | ⟨hnone, o, ho, heq⟩ |
    ⟨a, b, after, grew, moved, ha, hb, hafter, heq⟩
  · rw [heq]
    exact Or.inl ⟨rfl, f, rfl⟩
  · rw [heq]
    exact Or.inr (Or.inl ⟨hnone, o, ho, rfl⟩)
  · rw [heq]
    refine Or.inr (Or.inr ⟨a, b, grew, ha, hb, ?_⟩)
    rcases hafter with rfl | rfl
    · rfl
    · exact congrArg some (Axis.moveTo_full _ _)

theorem Tracked.followData (h : c.Tracked) : c.followData.1.Tracked := by
  refine ⟨by rw [followData_series]; exact h.series, ?_⟩
  rcases followData_full? c with ⟨heq, -⟩ | ⟨-, o, ho, hfull⟩ | ⟨a, b, grew, ha, hb, hfull⟩
  · rw [heq]
    exact h.full
  · rw [hfull]
    exact (axisOfData?_covers ho).1
  · rw [hfull]
    rintro w ⟨⟩
    exact (Axis.growAxis?_covers (h.full _ (full?_of_axis ha)) hb).1

/-- An oldest sample that is covered stays covered. -/
theorem Caught.followData (hc : c.Caught) (h : c.Tracked) (hk : c.Keeps .redraw) :
    c.followData.1.Caught := by
  intro w hw s hs hsize first hfirst
  rw [followData_series] at hs
  rcases followData_full? c with ⟨heq, -⟩ | ⟨hnone, o, ho, hfull⟩ | ⟨a, b, grew, ha, hb, hfull⟩
  · rw [heq] at hw
    exact hc w hw s hs hsize first hfirst
  · obtain ⟨x, hx, rfl⟩ := Option.map_eq_some_iff.1 hfirst
    obtain ⟨-, v, hv, hcontains⟩ := (axisOfData?_covers ho).2 s hs x (Array.mem_of_getElem? hx)
    rw [hfull] at hw
    cases hv.symm.trans hw
    exact hcontains (hk hnone)
  · have hcovers := (Axis.growAxis?_covers (h.full _ (full?_of_axis ha)) hb).2.1
    rw [hfull] at hw
    cases hw
    exact hcovers.contains (hc _ (full?_of_axis ha) s hs hsize first hfirst)

/-- Once the data is followed, the newest samples are covered. -/
theorem Tracked.followData_current (h : c.Tracked) (hk : c.Keeps .redraw)
    {moved : Option Window} (hok : c.followData.2 = .ok moved) : c.followData.1.Current := by
  intro w hw s hs last hlast
  rw [followData_series] at hs
  rcases followData_full? c with ⟨-, f, hf⟩ | ⟨hnone, o, ho, hfull⟩ | ⟨a, b, grew, ha, hb, hfull⟩
  · rw [hf] at hok
    cases hok
  · obtain ⟨x, hx, rfl⟩ := Option.map_eq_some_iff.1 hlast
    obtain ⟨-, v, hv, hcontains⟩ := (axisOfData?_covers ho).2 s hs x (Array.mem_of_back? hx)
    rw [hfull] at hw
    cases hv.symm.trans hw
    exact hcontains (hk hnone)
  · have hnewest := (Axis.growAxis?_covers (h.full _ (full?_of_axis ha)) hb).2.2
    rw [hfull] at hw
    cases hw
    exact hnewest s hs last hlast

/-- Once the data is followed, there is an axis if there is data. -/
theorem followData_full?_isSome {moved : Option Window} (hok : c.followData.2 = .ok moved)
    {s : Series} (hs : s ∈ c.series) {x : Sample} (hx : x ∈ s.samples) :
    ∃ w, c.followData.1.full? = some w := by
  rcases followData_full? c with ⟨-, f, hf⟩ | ⟨-, o, ho, hfull⟩ | ⟨a, b, grew, -, -, hfull⟩
  · rw [hf] at hok
    cases hok
  · obtain ⟨-, w, hw, -⟩ := (axisOfData?_covers ho).2 s hs x hx
    exact ⟨w, hfull.trans hw⟩
  · exact ⟨b.full, hfull⟩

/-! ## Events -/

theorem append_of_getElem? {index : Nat} {s : Series} (hs : c.series[index]? = some s)
    (x : Sample) : (c.append index x).1 = { c with series := c.series.set index (s.append x) } := by
  unfold append
  rw [hs]

theorem append_of_none {index : Nat} (hs : c.series[index]? = none) (x : Sample) :
    (c.append index x).1 = c := by
  unfold append
  rw [hs]

theorem moveTo_full? (c : Chart) (w : Window) : (c.moveTo w).1.full? = c.full? := by
  by_cases hr : c.moves.next.IsRefused
  · rw [moveTo_of_refused hr]
    rfl
  · rw [moveTo_of_not_refused hr]
    exact shown_full? c w

theorem redraw_full? (c : Chart) : c.redraw.1.full? = c.followData.1.full? := by
  obtain ⟨canvas, redraws, heq⟩ := c.redraw_leaves
  rw [heq]
  rfl

theorem followData_of_redraw {moved : Option Window} (h : c.redraw.2 = .ok moved) :
    ∃ moved, c.followData.2 = .ok moved := by
  unfold redraw at h
  split at h
  · cases h
  · rename_i heq
    exact ⟨_, congrArg Prod.snd heq⟩

/-- After a drawing that answers there is an axis if there is data. -/
theorem redraw_full?_isSome {moved : Option Window} (hok : c.redraw.2 = .ok moved)
    {s : Series} (hs : s ∈ c.redraw.1.series) {x : Sample} (hx : x ∈ s.samples) :
    ∃ w, c.redraw.1.full? = some w := by
  obtain ⟨_, hfollowed⟩ := followData_of_redraw hok
  rw [redraw_series] at hs
  rw [redraw_full?]
  exact followData_full?_isSome hfollowed hs hx

/-- After a drawing that answers the newest samples are covered. -/
theorem Tracked.redraw_current (h : c.Tracked) (hk : c.Keeps .redraw) {moved : Option Window}
    (hok : c.redraw.2 = .ok moved) : c.redraw.1.Current := by
  obtain ⟨_, hfollowed⟩ := followData_of_redraw hok
  have hcurrent := h.followData_current hk hfollowed
  unfold Current at hcurrent ⊢
  rw [redraw_full?, redraw_series]
  rw [followData_series] at hcurrent
  exact hcurrent

/-- What depends on the series and the full window only. -/
theorem Tracked.of_same {d : Chart} (h : c.Tracked) (hseries : d.series = c.series)
    (hfull : d.full? = c.full?) : d.Tracked := by
  refine ⟨?_, ?_⟩
  · rw [hseries]
    exact h.series
  · rw [hfull]
    exact h.full

theorem Caught.of_same {d : Chart} (h : c.Caught) (hseries : d.series = c.series)
    (hfull : d.full? = c.full?) : d.Caught := by
  unfold Caught
  rw [hseries, hfull]
  exact h

/-- Every event keeps the order of the series and of the ends of the full window. -/
theorem Tracked.act (h : c.Tracked) (e : Event) : (c.act e).Tracked := by
  cases e with
  | append index x =>
    show (c.append index x).1.Tracked
    cases hs : c.series[index]? with
    | none =>
      rw [append_of_none hs]
      exact h
    | some s =>
      rw [append_of_getElem? hs]
      refine ⟨?_, h.full⟩
      intro u hu
      rcases List.mem_or_eq_of_mem_set hu with hu | rfl
      · exact h.series u hu
      · exact (h.series s (List.mem_of_getElem? hs)).append x
  | moveTo w => exact h.of_same (c.moveTo_series w) (c.moveTo_full? w)
  | redraw =>
    exact h.followData.of_same ((c.redraw_series).trans c.followData_series.symm) c.redraw_full?

/-- What an event that keeps the pace leaves is caught. -/
theorem Caught.act (hc : c.Caught) (h : c.Tracked) {e : Event} (hk : c.Keeps e) :
    (c.act e).Caught := by
  cases e with
  | append index x =>
    show (c.append index x).1.Caught
    cases hs : c.series[index]? with
    | none =>
      rw [append_of_none hs]
      exact hc
    | some s =>
      have hmem := List.mem_of_getElem? hs
      rw [append_of_getElem? hs]
      intro w hw u hu hsize first hfirst
      rcases List.mem_or_eq_of_mem_set hu with hu | rfl
      · exact hc w hw u hu hsize first hfirst
      · by_cases haccepts : s.Accepts x
        · rw [Series.append_samples haccepts, Array.size_push] at hsize
          have hne : s.samples ≠ #[] := by
            intro he
            rw [he] at hsize
            exact absurd hsize (by decide)
          rw [Series.append_firstTime? hne] at hfirst
          rcases Nat.lt_or_ge 1 s.samples.size with hmany | hone
          · exact hc w hw s hmem hmany first hfirst
          · exact hk w hw s hs haccepts (by omega) first hfirst
        · rw [Series.append_of_not_accepts haccepts] at hsize hfirst
          exact hc w hw s hmem hsize first hfirst
  | moveTo w => exact hc.of_same (c.moveTo_series w) (c.moveTo_full? w)
  | redraw =>
    exact (hc.followData h hk).of_same ((c.redraw_series).trans c.followData_series.symm)
      c.redraw_full?

theorem Tracked.run (h : c.Tracked) (events : List Event) : (c.run events).Tracked := by
  induction events generalizing c with
  | nil => exact h
  | cons e rest ih => exact ih (h.act e)

theorem Caught.run (hc : c.Caught) (h : c.Tracked) {events : List Event}
    (hp : c.Paced events) : (c.run events).Caught := by
  induction events generalizing c with
  | nil => exact hc
  | cons e rest ih => exact ih (hc.act h hp.1) (h.act e) hp.2

theorem paced_append {before after : List Event} :
    c.Paced (before ++ after) ↔ c.Paced before ∧ (c.run before).Paced after := by
  induction before generalizing c with
  | nil => exact (and_iff_right trivial).symm
  | cons e rest ih =>
    show c.Keeps e ∧ (c.act e).Paced (rest ++ after) ↔ _
    rw [ih, ← and_assoc]
    rfl

/-- Where the newest sample of a series is covered, all of it is just if the oldest one is. -/
theorem Tracked.contains_iff (h : c.Tracked) (hn : c.Current) {w : Window} (hw : w ∈ c.full?)
    {s : Series} (hs : s ∈ c.series) :
    (∀ x ∈ s.samples, w.Contains x.time) ↔ ∀ first ∈ s.firstTime?, w.Contains first := by
  constructor
  · intro hall first hfirst
    obtain ⟨x, hx, rfl⟩ := Option.map_eq_some_iff.1 hfirst
    exact hall x (Array.mem_of_getElem? hx)
  · exact fun hfirst x hx => (h.series s hs).contained hfirst (hn w hw s hs) hx

/-- With the newest samples covered as well, everything is. -/
theorem Caught.covered (hc : c.Caught) (h : c.Tracked) (hn : c.Current)
    (hdata : ∀ s ∈ c.series, ∀ x ∈ s.samples, ∃ w, c.full? = some w) : c.Covered := by
  intro s hs x hx
  obtain ⟨w, hw⟩ := hdata s hs x hx
  refine ⟨w, hw, (h.contains_iff hn hw hs).2 ?_ x hx⟩
  intro first hfirst
  rcases Nat.lt_or_ge 1 s.samples.size with hmany | hone
  · exact hc w hw s hs hmany first hfirst
  · -- the only sample is the newest one
    have hlastTime : s.lastTime? = s.firstTime? := by
      have hsize : s.samples.size - 1 = 0 := by omega
      rw [Series.lastTime?, Array.back?_eq_getElem?, hsize]
      rfl
    exact hn w hw s hs first (hlastTime.trans hfirst)

/-! ## Made charts -/

section Made

variable {settings : ChartSettings} {series : List Series} {canvas : Canvas} {moves : Calls}
  {limitsZoom : Bool}

/-- A chart that is made over sorted series is tracked: series with other than finite times are
    refused. -/
theorem make?_tracked (hsorted : ∀ s ∈ series, s.Sorted)
    (h : make? settings series canvas moves limitsZoom = .ok c) : c.Tracked := by
  obtain ⟨-, hseries, -, haxis⟩ := make?_eq_ok h
  obtain ⟨hordered, hall⟩ := axisOfData?_covers haxis
  refine ⟨?_, hordered⟩
  rw [hseries]
  exact fun s hs => ⟨fun x hx => (hall s hs x hx).1, hsorted s hs⟩

theorem make?_caught (hfits : FitsAll settings series)
    (h : make? settings series canvas moves limitsZoom = .ok c) : c.Caught := by
  obtain ⟨-, hseries, -, haxis⟩ := make?_eq_ok h
  intro w hw s hs _ first hfirst
  rw [hseries] at hs
  obtain ⟨x, hx, rfl⟩ := Option.map_eq_some_iff.1 hfirst
  obtain ⟨-, v, hv, hcontains⟩ := (axisOfData?_covers haxis).2 s hs x (Array.mem_of_getElem? hx)
  cases hv.symm.trans hw
  exact hcontains hfits

/-- What the axis covers after a drawing that answers, in any run of a chart over sorted series.
    There is an axis if there is data. The newest samples are covered, and then a series is covered
    just if its oldest sample is; this needs only that an axis fitted by this very drawing loses
    nothing. After a paced run everything is covered. -/
theorem redraw_covers (hsorted : ∀ s ∈ series, s.Sorted)
    (hmade : make? settings series canvas moves limitsZoom = .ok c) {events : List Event}
    {after : Chart} {moved : Option Window} (hdrawn : (c.run events).redraw = (after, .ok moved)) :
    (∀ s ∈ after.series, ∀ x ∈ s.samples, ∃ w, after.full? = some w) ∧
    ((c.run events).Keeps .redraw → ∀ w ∈ after.full?, ∀ s ∈ after.series,
      (∀ last ∈ s.lastTime?, w.Contains last) ∧
      ((∀ x ∈ s.samples, w.Contains x.time) ↔ ∀ first ∈ s.firstTime?, w.Contains first)) ∧
    (FitsAll settings series → c.Paced (events ++ [.redraw]) → after.Covered) := by
  have hok : (c.run events).redraw.2 = .ok moved := by rw [hdrawn]
  obtain rfl : (c.run events).redraw.1 = after := by rw [hdrawn]
  have htracked := (make?_tracked hsorted hmade).run events
  have hafter := htracked.act .redraw
  refine ⟨fun s hs x hx => redraw_full?_isSome hok hs hx, ?_, ?_⟩
  · intro hk w hw s hs
    have hnewest := htracked.redraw_current hk hok
    exact ⟨hnewest w hw s hs, hafter.contains_iff hnewest hw hs⟩
  · intro hfits hpaced
    obtain ⟨hbefore, hk, -⟩ := paced_append.1 hpaced
    have hcaught := (make?_caught hfits hmade).run (make?_tracked hsorted hmade) hbefore
    exact (hcaught.act htracked hk).covered hafter (htracked.redraw_current hk hok)
      fun s hs x hx => redraw_full?_isSome hok hs hx

end Made

/-- One series with samples at 100 and at 200, and one without. -/
def lopsidedSeries : List Series :=
  [⟨"a", .line, none, #[⟨100, 1⟩, ⟨200, 1⟩]⟩, .empty "b" .line none]

/-- A chart over the two series. -/
def lopsided : Chart :=
  ⟨.standard, some ⟨⟨100, 200⟩, ⟨100, 200⟩⟩, lopsidedSeries, 0, .blank [], .ofRefused [], false⟩

theorem lopsided_made :
    make? .standard lopsidedSeries (.blank []) (.ofRefused []) false = .ok lopsided := by
  decide +kernel

/-- A sample for the empty series, and after a drawing one more for each. -/
def pacedEvents : List Event :=
  [.append 1 ⟨50, 1⟩, .redraw, .append 1 ⟨150, 1⟩, .append 0 ⟨250, 1⟩]

theorem redraw_covers_paced :
    (lopsided.run pacedEvents).redraw.2 = .ok (some ⟨50, 250⟩) ∧
      (lopsided.run pacedEvents).redraw.1.Covered := by
  have hok : (lopsided.run pacedEvents).redraw.2 = .ok (some ⟨50, 250⟩) := by decide +kernel
  have hdrawn : (lopsided.run pacedEvents).redraw =
      ((lopsided.run pacedEvents).redraw.1, .ok (some ⟨50, 250⟩)) := by rw [← hok]
  obtain ⟨-, -, hcovered⟩ := redraw_covers (by decide +kernel) lopsided_made hdrawn
  exact ⟨hok, hcovered (by decide +kernel) (by decide +kernel)⟩

/-- Two samples for the empty series, without a drawing between them. -/
def hastyEvents : List Event := [.append 1 ⟨50, 1⟩, .append 1 ⟨150, 1⟩]

/-- The drawing after the two samples answers, and leaves the older one out. -/
theorem redraw_leaves_out :
    ¬ ∀ (settings : ChartSettings) (series : List Series) (canvas : Canvas) (moves : Calls)
      (limitsZoom : Bool) (c after : Chart) (events : List Event) (moved : Option Window),
      (∀ s ∈ series, s.Sorted) → make? settings series canvas moves limitsZoom = .ok c →
      (c.run events).redraw = (after, .ok moved) → after.Covered := by
  intro h
  have hok : (lopsided.run hastyEvents).redraw.2 = .ok none := by decide +kernel
  have hdrawn : (lopsided.run hastyEvents).redraw =
      ((lopsided.run hastyEvents).redraw.1, .ok none) := by rw [← hok]
  have hcovered := h _ _ _ _ _ _ _ _ _ (by decide +kernel) lopsided_made hdrawn
  exact absurd hcovered (by decide +kernel)

end Chart

end LinkedCharts
