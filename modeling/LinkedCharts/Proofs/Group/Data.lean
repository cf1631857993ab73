import LinkedCharts.Proofs.Group.Slots

/-!
# The data of a group

Only samples that are offered to a series change what it holds: the windows that a group shows, what
it records and how it is drawn leave all data alone. Offering samples changes one series and nothing
else.

Results:
* `Group.data`, `Group.series?`: all series of a group, and the one in a slot.
* `Group.act_data`: calls that offer no samples leave the data alone.
* `Group.apply_fst`, `Group.apply_snd`: samples offered to a slot reach its series, which counts
  those that it accepts.
* `Group.modifySeries_comm`: what happens in two slots can happen in either order.
* `Group.run_series?`: no call takes a series away, or what it holds.
* `Group.mem_plan`: a request of a plan is for a series that takes live data, from where that ends.
-/

namespace LinkedCharts

/-! ## Samples offered to a chart -/

/-- How many of some samples a series accepts when they are offered in order. -/
def Series.accepted (s : Series) : List Sample → Nat
  | [] => 0
  | x :: rest => (s.append x).accepted rest + if s.Accepts x then 1 else 0

/-- A series grows by the samples that it accepts. -/
theorem Series.appendAll_size (s : Series) (xs : List Sample) :
    (s.appendAll xs).samples.size = s.samples.size + s.accepted xs := by
  induction xs generalizing s with
  | nil => rfl
  | cons x rest ih =>
    show ((s.append x).appendAll rest).samples.size = _
    rw [ih, accepted]
    unfold append
    split
    · rw [Array.size_push]
      omega
    · rfl

theorem Chart.append_fst (c : Chart) (index : Nat) (x : Sample) :
    (c.append index x).1 = { c with series := c.series.modify index (·.append x) } := by
  unfold append
  rw [List.modify_eq_set_getElem?]
  cases c.series[index]? with
  | none => rfl
  | some s => rfl

theorem Chart.keepsSeries : View.KeepsSeries Chart where
  moveTo c w := c.moveTo_series w
  append c index x := Or.inr (congrArg Chart.series (c.append_fst index x))
  redraw c := c.redraw_series

theorem Chart.append_snd {c : Chart} {index : Nat} {s : Series} (hs : c.series[index]? = some s)
    (x : Sample) : (c.append index x).2 = .ok (decide (s.Accepts x)) := by
  unfold append
  rw [hs]

/-- Samples that are offered to a series of a chart reach that series, if it is there. -/
theorem View.appendAll_fst (c : Chart) (index : Nat) (xs : List Sample) :
    (View.appendAll c index xs).1 =
      { c with series := c.series.modify index (·.appendAll xs) } := by
  induction xs generalizing c with
  | nil =>
    show c = { c with series := c.series.modify index id }
    rw [List.modify_id]
  | cons x rest ih =>
    have hfst := c.append_fst index x
    unfold View.appendAll
    rw [View.append_chart]
    rcases happend : c.append index x with ⟨d, f | kept⟩
    · -- the offer fails only if there is no series at the index
      rw [happend] at hfst
      have hnone : c.series[index]? = none := by
        cases hs : c.series[index]? with
        | none => rfl
        | some s =>
          have hsnd := Chart.append_snd hs x
          rw [happend] at hsnd
          cases hsnd
      have hlength := List.getElem?_eq_none_iff.1 hnone
      dsimp only at hfst ⊢
      rw [hfst, List.modify_eq_self hlength, List.modify_eq_self hlength]
    · rw [happend] at hfst
      dsimp only at hfst ⊢
      rw [ih d, hfst, List.modify_modify_eq]
      rfl

theorem View.appendAll_snd {c : Chart} {index : Nat} {s : Series}
    (hs : c.series[index]? = some s) (xs : List Sample) :
    (View.appendAll c index xs).2 = .ok (s.accepted xs) := by
  induction xs generalizing c s with
  | nil => rfl
  | cons x rest ih =>
    have hfst := c.append_fst index x
    have hsnd := Chart.append_snd hs x
    unfold View.appendAll
    rw [View.append_chart]
    rcases happend : c.append index x with ⟨d, f | kept⟩
    · rw [happend] at hsnd
      cases hsnd
    · rw [happend] at hfst hsnd
      obtain rfl := Except.ok.inj hsnd
      have hd : d.series[index]? = some (s.append x) := by
        rw [show d = _ from hfst, List.getElem?_modify_eq, hs]
        rfl
      dsimp only
      rw [ih hd]
      simp [Except.map, Series.accepted]

attribute [ext] Slot

namespace Group

/-! ## Slots -/

/-- The series of all charts. -/
def data (g : Group) : List (List Series) := g.charts.map Chart.series

/-- The series in a slot. -/
def series? (g : Group) (slot : Slot) : Option Series :=
  g.data[slot.chart]?.bind fun series => series[slot.series]?

theorem series?_of_data {g g' : Group} (h : g'.data = g.data) (slot : Slot) :
    g'.series? slot = g.series? slot := by
  unfold series?
  rw [h]

theorem series?_eq (g : Group) (slot : Slot) :
    g.series? slot = g.charts[slot.chart]?.bind fun c => c.series[slot.series]? := by
  unfold series? data
  rw [List.getElem?_map, Option.bind_map]
  rfl

theorem series?_eq_some_iff {g : Group} {slot : Slot} {s : Series} :
    g.series? slot = some s ↔
      ∃ c, g.charts[slot.chart]? = some c ∧ c.series[slot.series]? = some s := by
  rw [series?_eq, Option.bind_eq_some_iff]

/-! ## Calls that offer no samples -/

theorem pass_data (act : Nat → Chart → Chart × Except Fault (Option Window))
    (h : ∀ i c, (act i c).1.series = c.series) (index : Nat) (cs : List Chart) :
    (pass act index cs).charts.map Chart.series = cs.map Chart.series :=
  pass_map (fun i c _ => h i c) index

theorem onChart_data {α : Type} (act : Chart → Chart × Except Fault α)
    (h : ∀ c, (act c).1.series = c.series) (g : Group) (index : Nat) :
    (g.onChart index act).1.data = g.data := by
  rcases Nat.lt_or_ge index g.charts.length with hi | hi
  · have hc := List.getElem?_eq_getElem hi
    rw [onChart_of_getElem? hc]
    exact map_set_of_eq hc (h _)
  · rw [onChart_of_le hi]

theorem follow_series (w : Window) (origin : Option Nat) (index : Nat) (c : Chart) :
    (follow w origin index c).1.series = c.series := by
  rcases follow_fst w origin index c with h | h
  · rw [h]
  · rw [h]
    exact c.moveTo_series w

theorem navigated_data (g : Group) (state : Json.Value) : (g.navigated state).1.data = g.data := by
  rcases g.navigated_cases state with heq | ⟨e, -, -, heq⟩
  · rw [heq]
  · rw [heq]
    exact pass_data _ (follow_series e.window none) 0 g.charts

theorem redraw_data (g : Group) : g.redraw.1.data = g.data := by
  unfold data
  rw [redraw_charts]
  exact pass_data (fun _ c => View.redraw c) (fun _ c => c.redraw_series) 0 g.charts

section Recorded

variable {H : Type} [Recorder H]

theorem notify_data (g : Group) (h : H) (origin : Nat) (w : Window) :
    (g.notify h origin w).1.data = g.data := by
  rw [notify_eq]
  split
  · rfl
  · split
    · rfl
    · rcases Recorder.push h ⟨g.id, w⟩ with ⟨h', f | ⟨⟩⟩
      · rfl
      · dsimp only
        rw [spread_eq]
        exact pass_data _ (follow_series w (some origin)) 0 g.charts

theorem userSet_data (g : Group) (h : H) (origin : Nat) (w : Window) :
    (g.userSet h origin w).1.data = g.data := by
  have hmoved := onChart_data (View.moveTo · (w.widenedTo g.effectiveMinimum))
    (fun c => c.moveTo_series _) g origin
  unfold userSet
  dsimp only
  rcases hact : g.onChart origin (View.moveTo · (w.widenedTo g.effectiveMinimum)) with
    ⟨g', f | moved⟩
  · rw [hact] at hmoved
    exact hmoved
  · rw [hact] at hmoved
    exact (notify_data g' h origin _).trans hmoved

theorem select_data (g : Group) (h : H) (origin : Nat) (p : Preset) :
    (g.select h origin p).1.data = g.data := by
  unfold select
  split
  · rfl
  · split
    · rfl
    · exact userSet_data g h origin _

/-- The call offers no samples to a series. -/
def LeavesData : Action → Prop
  | .apply .. | .append .. => False
  | .anchor | .notify .. | .userSet .. | .select .. | .navigated _ | .redraw | .moveTo .. => True

/-- A call that offers no samples leaves the data alone. -/
theorem act_data (g : Group) (h : H) {a : Action} (ha : LeavesData a) :
    (g.act h a).1.data = g.data := by
  cases a with
  | anchor => rfl
  | notify origin w => exact notify_data g h origin w
  | userSet origin w => exact userSet_data g h origin w
  | select origin p => exact select_data g h origin p
  | navigated state => exact navigated_data g state
  | redraw => exact redraw_data g
  | apply slot samples => cases ha
  | append chart series x => cases ha
  | moveTo chart w => exact onChart_data _ (fun c => c.moveTo_series w) g chart

end Recorded

/-! ## Samples -/

/-- The group with the series in a slot changed. -/
def modifySeries (g : Group) (slot : Slot) (change : Series → Series) : Group :=
  { g with charts := g.charts.modify slot.chart fun c =>
      { c with series := c.series.modify slot.series change } }

/-- The series in the slot is another one, and all others are as they were. -/
theorem series?_modifySeries (g : Group) (slot : Slot) (change : Series → Series) (other : Slot) :
    (g.modifySeries slot change).series? other =
      if other = slot then (g.series? slot).map change else g.series? other := by
  rw [series?_eq, series?_eq, series?_eq]
  unfold modifySeries
  dsimp only
  rw [List.getElem?_modify]
  by_cases heq : other = slot
  · rw [if_pos heq, heq]
    cases g.charts[slot.chart]? with
    | none => rfl
    | some c => simp
  · rw [if_neg heq]
    cases g.charts[other.chart]? with
    | none => rfl
    | some c =>
      by_cases hchart : slot.chart = other.chart
      · have hseries : slot.series ≠ other.series := fun hseries =>
          heq (Slot.ext hchart.symm hseries.symm)
        simp [hchart, hseries]
      · simp [hchart]

/-- A change of a series that is there takes its place. -/
theorem modifySeries_of_getElem? {g : Group} {slot : Slot} {c : Chart} {s : Series}
    (hc : g.charts[slot.chart]? = some c) (hs : c.series[slot.series]? = some s)
    (change : Series → Series) :
    g.modifySeries slot change =
      { g with
        charts := g.charts.set slot.chart
          { c with series := c.series.set slot.series (change s) } } := by
  unfold modifySeries
  rw [List.modify_eq_set_getElem?, hc]
  dsimp only [Option.map_eq_map, Option.map_some, Option.getD_some]
  rw [List.modify_eq_set_getElem?, hs]
  rfl

/-- Two changes that agree on the series in the slot are the same. -/
theorem modifySeries_congr {g : Group} {slot : Slot} {s : Series} (hs : g.series? slot = some s)
    {f f' : Series → Series} (h : f s = f' s) : g.modifySeries slot f = g.modifySeries slot f' := by
  obtain ⟨c, hc, hseries⟩ := series?_eq_some_iff.1 hs
  rw [modifySeries_of_getElem? hc hseries, modifySeries_of_getElem? hc hseries, h]

/-- Two changes in the same slot are one. -/
theorem modifySeries_modifySeries (g : Group) (slot : Slot) (f f' : Series → Series) :
    (g.modifySeries slot f).modifySeries slot f' = g.modifySeries slot (f' ∘ f) := by
  unfold modifySeries
  dsimp only
  rw [List.modify_modify_eq]
  congr 2
  funext c
  simp only [Function.comp_apply]
  rw [List.modify_modify_eq]

theorem modifySeries_self (g : Group) (slot : Slot) : g.modifySeries slot (fun s => s) = g := by
  have hself : (fun c : Chart => { c with series := c.series.modify slot.series fun s => s }) =
      fun c => c := by
    funext c
    rw [show c.series.modify slot.series (fun s => s) = c.series from List.modify_id _ _]
  unfold modifySeries
  rw [hself, show g.charts.modify slot.chart (fun c => c) = g.charts from List.modify_id _ _]

/-- Changes in two slots can be made in either order. -/
theorem modifySeries_comm (g : Group) {a b : Slot} (hab : a ≠ b) (f f' : Series → Series) :
    (g.modifySeries a f).modifySeries b f' = (g.modifySeries b f').modifySeries a f := by
  unfold modifySeries
  dsimp only
  by_cases hchart : a.chart = b.chart
  · have hseries : a.series ≠ b.series := fun hseries => hab (Slot.ext hchart hseries)
    rw [hchart, List.modify_modify_eq, List.modify_modify_eq]
    congr 2
    funext c
    simp only [Function.comp_apply]
    rw [List.modify_modify_ne _ _ _ hseries]
  · rw [List.modify_modify_ne _ _ _ hchart]

/-- Samples that are offered to the series in a slot reach it, and nothing else. -/
theorem apply_fst (g : Group) (slot : Slot) (xs : List Sample) :
    (g.apply slot xs).1 = g.modifySeries slot (·.appendAll xs) := by
  unfold apply modifySeries
  rw [onChart_fst]
  simp only [View.appendAll_fst]

/-- All samples that a series accepts are counted. -/
theorem apply_snd {g : Group} {slot : Slot} {s : Series} (hs : g.series? slot = some s)
    (xs : List Sample) : (g.apply slot xs).2 = .ok (s.accepted xs) := by
  obtain ⟨c, hc, hseries⟩ := series?_eq_some_iff.1 hs
  unfold apply
  rw [onChart_of_getElem? hc]
  exact View.appendAll_snd hseries xs

/-- Samples that are offered to the series in a slot reach it, and no other series. -/
theorem apply_of_series? {g : Group} {slot : Slot} {s : Series} (hs : g.series? slot = some s)
    (xs : List Sample) :
    (∃ kept, (g.apply slot xs).2 = .ok kept) ∧
    ∀ other, (g.apply slot xs).1.series? other =
      if other = slot then some (s.appendAll xs) else g.series? other := by
  refine ⟨⟨_, apply_snd hs xs⟩, fun other => ?_⟩
  rw [apply_fst, series?_modifySeries, hs]
  rfl

/-! ## Series through runs -/

section Recorded

variable {H : Type} [Recorder H]

/-- Whatever is called, a series is where it was, and at most holds more. -/
theorem run_series? {g : Group} {slot : Slot} {s : Series} (hs : g.series? slot = some s) (h : H)
    (calls : List Action) : ∃ xs, (g.run h calls).group.series? slot = some (s.appendAll xs) := by
  have hthere : g.seriesIn? slot = some s := (g.series?_eq slot).symm.trans hs
  obtain ⟨xs, hlater⟩ := run_seriesIn? Chart.keepsSeries hthere h calls
  exact ⟨xs, (series?_eq _ slot).trans hlater⟩

end Recorded

/-! ## Plans -/

/-- A request of a plan is for a series that takes live data, from the newest sample that it
    holds. -/
theorem mem_plan {g : Group} {r : Request} (hr : r ∈ g.plan) :
    ∃ s, g.series? r.slot = some s ∧ s.IsPollable ∧ r.since = s.lastTime? := by
  obtain ⟨s, hs, hkind, hurl, hsince⟩ := mem_plan_iff.1 hr
  exact ⟨s, (g.series?_eq r.slot).trans hs, ⟨hkind, Option.isSome_of_eq_some hurl⟩, hsince⟩

end Group

end LinkedCharts
