import LinkedCharts.History.Trail
import LinkedCharts.Proofs.Chart
import LinkedCharts.Proofs.Group.Sweep
import Mathlib.Data.List.Forall2

/-!
# A window that a user chooses

In a group of charts that refuse nothing, a window that a user chooses on one chart is widened to
the largest minimum of the group and its charts, recorded once, and from then on shown by every
chart that has an axis. Nothing else about any chart changes.

Results:
* `Group.effectiveMinimum_isZoomLimit`: the minimum in force is the largest one.
* `Group.pass_follow`, `Group.pass_follow_origin`: how plain charts follow a window.
* `Group.Chosen`, `Group.choice_effect`: the complete effect of a window, or of a preset, that a
  user chooses.
-/

namespace LinkedCharts

/-! ## Charts that follow -/

namespace Chart

/-- The chart has an axis and shows another window. -/
def Elsewhere (w : Window) (c : Chart) : Prop := ∃ v ∈ c.visible?, ¬ v.Same w

instance (w : Window) (c : Chart) : Decidable (c.Elsewhere w) :=
  inferInstanceAs (Decidable (∃ v ∈ c.visible?, _))

theorem not_elsewhere_of_none {c : Chart} (h : c.axis = none) (w : Window) :
    ¬ c.Elsewhere w := by
  rintro ⟨v, hv, -⟩
  rw [visible?, h] at hv
  cases hv

theorem elsewhere_iff {c : Chart} {a : Axis} (h : c.axis = some a) (w : Window) :
    c.Elsewhere w ↔ ¬ a.visible.Same w := by
  unfold Elsewhere visible?
  rw [h]
  constructor
  · rintro ⟨v, ⟨⟩, hv⟩
    exact hv
  · exact fun hs => ⟨a.visible, rfl, hs⟩

/-- One chart is the other one with another window visible, if it has an axis, and the same in all
    else. -/
structure ShowsInstead (w : Window) (before after : Chart) : Prop where
  hasAxis : after.axis.isSome = before.axis.isSome
  visible : ∀ v ∈ after.visible?, v.Same w
  full : after.full? = before.full?
  series : after.series = before.series
  settings : after.settings = before.settings
  redraws : after.redraws = before.redraws
  canvas : after.canvas = before.canvas
  limitsZoom : after.limitsZoom = before.limitsZoom

theorem shown_showsInstead {w : Window} (hw : w.Ordered) (c : Chart) :
    ShowsInstead w c (c.shown w) where
  hasAxis := Option.isSome_map
  visible := fun _ hv => shown_visible? c hw hv
  full := shown_full? c w
  series := rfl
  settings := rfl
  redraws := rfl
  canvas := rfl
  limitsZoom := rfl

end Chart

namespace Group

/-- A chart that does not refuse to move follows a window, and says so if it showed another one. -/
theorem follow_of_not_refused {c : Chart} (h : ¬ c.moves.next.IsRefused) (w : Window)
    {origin : Option Nat} {index : Nat} (hne : origin ≠ some index) :
    follow w origin index c = (c.shown w, .ok (if c.Elsewhere w then some w else none)) := by
  unfold follow
  rw [if_neg hne, View.moveTo_chart, Chart.moveTo_of_not_refused h]
  cases ha : c.axis with
  | none =>
    dsimp only
    rw [if_neg (Chart.not_elsewhere_of_none ha w)]
  | some a =>
    have hiff := Chart.elsewhere_iff ha w
    dsimp only
    by_cases hs : a.visible.Same w
    · rw [if_neg (fun h => hiff.1 h hs), Axis.moveTo, if_pos hs]
    · rw [if_pos (hiff.2 hs), Axis.moveTo, if_neg hs]

theorem follow_of_plain {c : Chart} (h : c.Plain) (w : Window) {origin : Option Nat} {index : Nat}
    (hne : origin ≠ some index) :
    follow w origin index c = (c.shown w, .ok (if c.Elsewhere w then some w else none)) :=
  follow_of_not_refused (Chart.not_isRefused h) w hne

theorem follow_origin (w : Window) (index : Nat) (c : Chart) :
    follow w (some index) index c = (c, .ok none) := if_pos rfl

/-- Plain charts all follow a window that comes from none of them. -/
theorem pass_follow {cs : List Chart} (h : ∀ c ∈ cs, c.Plain) (w : Window)
    (origin : Option Nat) (index : Nat) (hne : ∀ i, index ≤ i → origin ≠ some i) :
    pass (follow w origin) index cs =
      ⟨cs.map (·.shown w), cs.countP fun c => c.Elsewhere w, none⟩ := by
  induction cs generalizing index with
  | nil => rfl
  | cons c rest ih =>
    have hrest := ih (fun d hd => h d (List.mem_cons_of_mem c hd)) (index + 1)
      fun i hi => hne i (by omega)
    have hc := follow_of_plain (h c List.mem_cons_self) w (hne index (Nat.le_refl _))
    simp only [pass, hc, hrest, List.map_cons, List.countP_cons]
    by_cases hw : c.Elsewhere w
    · simp [hw]
    · simp [hw]

/-- All plain charts but the one that a window comes from follow it. -/
theorem pass_follow_origin {cs : List Chart} (h : ∀ c ∈ cs, c.Plain) (w : Window) (index : Nat)
    {j : Nat} {c : Chart} (hc : cs[j]? = some c) :
    pass (follow w (some (index + j))) index cs =
      ⟨(cs.map (·.shown w)).set j c, (cs.eraseIdx j).countP fun c => c.Elsewhere w, none⟩ := by
  induction cs generalizing index j with
  | nil => cases hc
  | cons d rest ih =>
    have hrest : ∀ e ∈ rest, e.Plain := fun e he => h e (List.mem_cons_of_mem d he)
    cases j with
    | zero =>
      cases hc
      rw [Nat.add_zero]
      have hpass := pass_follow hrest w (some index) (index + 1)
        fun i hi => by simp only [ne_eq, Option.some.injEq]; omega
      simp only [pass, follow_origin, hpass]
      rfl
    | succ j =>
      have hpass := ih hrest (index + 1) (j := j) hc
      rw [show index + 1 + j = index + (j + 1) by omega] at hpass
      have hne : some (index + (j + 1)) ≠ some index := by
        simp only [ne_eq, Option.some.injEq]
        omega
      have hd := follow_of_plain (h d List.mem_cons_self) w hne
      simp only [pass, hd, hpass, List.map_cons, List.set_cons_succ, List.eraseIdx_cons_succ,
        List.countP_cons]
      by_cases hw : d.Elsewhere w
      · simp [hw]
      · simp [hw]

/-! ## The minimum in force -/

/-- The minimum and the charts of the group are sound. -/
structure Sound (g : Group) : Prop where
  minimum : IsMinimumSpan g.minimumSpan
  charts : ∀ c ∈ g.charts, c.Sound

instance (g : Group) : Decidable g.Sound :=
  decidable_of_iff (IsMinimumSpan g.minimumSpan ∧ ∀ c ∈ g.charts, c.Sound)
    ⟨fun h => ⟨h.1, h.2⟩, fun h => ⟨h.minimum, h.charts⟩⟩

theorem isMinimumSpan_one : IsMinimumSpan 1 := by decide +kernel

/-- A group over sound charts is sound. -/
theorem make?_sound {id : GroupId} {charts : List Chart} {g : Group}
    (h : make? id charts = .ok g) (hcharts : ∀ c ∈ charts, c.Sound) : g.Sound := by
  unfold make? at h
  split at h
  · cases h
  · cases h
    exact ⟨isMinimumSpan_one, hcharts⟩

theorem withMinimumSpan?_sound {g g' : Group} {minimum : Binary64} (hg : g.Sound)
    (h : g.withMinimumSpan? minimum = .ok g') : g'.Sound := by
  unfold withMinimumSpan? at h
  split at h
  · cases h
    exact ⟨by assumption, hg.charts⟩
  · cases h

/-- The largest of the minima of the group and its charts. -/
structure IsZoomLimit (g : Group) (m : Binary64) : Prop where
  group : g.minimumSpan ≤ m
  charts : ∀ c ∈ g.charts, c.minimumSpan ≤ m
  attained : m = g.minimumSpan ∨ ∃ c ∈ g.charts, m = c.minimumSpan

/-- Over numbers, a running maximum is an upper bound and is one of them. -/
theorem foldl_max_spec {xs : List Binary64} {x : Binary64} (hx : x ≠ .nan)
    (hxs : ∀ y ∈ xs, y ≠ .nan) :
    x ≤ xs.foldl Binary64.max x ∧ (∀ y ∈ xs, y ≤ xs.foldl Binary64.max x) ∧
      (xs.foldl Binary64.max x = x ∨ xs.foldl Binary64.max x ∈ xs) := by
  induction xs generalizing x with
  | nil =>
    refine ⟨Binary64.le_refl hx, ?_, Or.inl rfl⟩
    rintro y ⟨⟩
  | cons z rest ih =>
    have hz := hxs z List.mem_cons_self
    have hmax : x.max z ≠ .nan := by
      rcases Binary64.max_eq_or x z with h | h
      · rwa [h]
      · rwa [h]
    obtain ⟨hle, hall, hmem⟩ := ih hmax fun y hy => hxs y (List.mem_cons_of_mem z hy)
    rw [List.foldl_cons]
    refine ⟨Binary64.le_trans (Binary64.le_max_left hx hz) hle, ?_, ?_⟩
    · intro y hy
      rcases List.mem_cons.1 hy with rfl | hy
      · exact Binary64.le_trans (Binary64.le_max_right hz) hle
      · exact hall y hy
    · rcases hmem with h | h
      · rcases Binary64.max_eq_or x z with h' | h'
        · exact Or.inl (h.trans h')
        · exact Or.inr (List.mem_cons.2 (Or.inl (h.trans h')))
      · exact Or.inr (List.mem_cons_of_mem z h)

theorem minimumSpan_ne_nan {c : Chart} (h : c.Sound) : c.minimumSpan ≠ .nan := by
  unfold Chart.minimumSpan
  split
  · exact Binary64.ne_nan_of_isFinite h.minimum.1
  · exact Binary64.ne_nan_of_place Binary64.place_zero

/-- The minimum in force is the largest one of the group and its charts. -/
theorem effectiveMinimum_isZoomLimit {g : Group} (h : g.Sound) :
    g.IsZoomLimit g.effectiveMinimum := by
  have hspans : ∀ y ∈ g.charts.map View.minimumSpan, y ≠ .nan := by
    intro y hy
    obtain ⟨c, hc, rfl⟩ := List.mem_map.1 hy
    exact minimumSpan_ne_nan (h.charts c hc)
  obtain ⟨hle, hall, hmem⟩ := foldl_max_spec (Binary64.ne_nan_of_isFinite h.minimum.1) hspans
  refine ⟨hle, fun c hc => hall _ (List.mem_map_of_mem hc), ?_⟩
  rcases hmem with heq | hmem
  · exact Or.inl heq
  · obtain ⟨c, hc, heq⟩ := List.mem_map.1 hmem
    exact Or.inr ⟨c, hc, heq.symm⟩

/-! ## A user's choice -/

variable {H : Type} [Recorder H]

/-- A user's window, on a chart that has an axis and in a history that takes it. -/
theorem userSet_of_plain {g : Group} {h h' : H} {origin : Nat} {c : Chart} {a : Axis} {w : Window}
    (hopen : g.suppressed = false) (hplain : ∀ c ∈ g.charts, c.Plain)
    (hc : g.charts[origin]? = some c) (ha : c.axis = some a)
    (hp : Recorder.push h ⟨g.id, w.widenedTo g.effectiveMinimum⟩ = (h', .ok ())) :
    g.userSet h origin w =
      (let v := w.widenedTo g.effectiveMinimum
       let moved := (g.charts.eraseIdx origin).countP fun c => c.Elsewhere v
       ({ g with
          charts := g.charts.map (·.shown v)
          stats := g.stats.countPush.addEchoes moved },
        h', .ok (.broadcast moved))) := by
  obtain ⟨ho, -⟩ := List.getElem?_eq_some_iff.1 hc
  have hcp : c.Plain := hplain c (List.mem_of_getElem? hc)
  have hmove := Chart.moveTo_of_plain hcp (w.widenedTo g.effectiveMinimum)
  rw [ha] at hmove
  rw [userSet_of_accepted hc (by rw [View.moveTo_chart, hmove]), View.moveTo_chart, hmove]
  generalize w.widenedTo g.effectiveMinimum = v at hp ⊢
  -- the chart has moved already when it reports, so that the pass leaves it as it is
  have hplain' : ∀ d ∈ g.charts.set origin (c.shown v), d.Plain := by
    intro d hd
    rcases List.mem_or_eq_of_mem_set hd with hd | rfl
    · exact hplain d hd
    · exact Chart.shown_plain hcp v
  have hget : (g.charts.set origin (c.shown v))[origin]? = some (c.shown v) := by
    rw [List.getElem?_set_self ho]
  have hpass := pass_follow_origin hplain' v 0 hget
  rw [Nat.zero_add, List.eraseIdx_set_eq, List.map_set, List.set_set] at hpass
  have hself : (g.charts.map (·.shown v)).set origin (c.shown v) = g.charts.map (·.shown v) := by
    rw [← List.map_set]
    exact map_set_of_eq hc rfl
  rw [hself] at hpass
  have hnotify := notify_of_push (g := { g with charts := g.charts.set origin (c.shown v) })
    (by simpa using ho) hopen hp
  dsimp only at hnotify
  rw [hpass] at hnotify
  exact hnotify

/-- A user's window on a chart without an axis goes nowhere. -/
theorem userSet_of_no_axis {g : Group} {h : H} {origin : Nat} {c : Chart} {w : Window}
    (hplain : ∀ c ∈ g.charts, c.Plain) (hc : g.charts[origin]? = some c) (ha : c.axis = none) :
    g.userSet h origin w =
      ({ g with charts := g.charts.set origin (c.shown (w.widenedTo g.effectiveMinimum)) }, h,
        .error .noTimeAxis) := by
  have hmove := Chart.moveTo_of_plain (hplain c (List.mem_of_getElem? hc))
    (w.widenedTo g.effectiveMinimum)
  rw [ha] at hmove
  rw [userSet_of_refused hc (by rw [View.moveTo_chart, hmove]), View.moveTo_chart, hmove]

theorem select_of_axis {g : Group} {h : H} {origin : Nat} {c : Chart} {a : Axis}
    (hc : g.charts[origin]? = some c) (ha : c.axis = some a) (p : Preset) :
    g.select h origin p = g.userSet h origin (p.resolve a.full) := by
  simp [select, chart?, hc, Chart.full?, ha]

/-- A window restored from the history, in a group of plain charts. -/
theorem navigated_of_plain {g : Group} (hplain : ∀ c ∈ g.charts, c.Plain) {state : Json.Value}
    {e : Entry} (he : Entry.ofState? state = some e) (hid : e.group = g.id) :
    g.navigated state =
      (let moved := g.charts.countP fun c => c.Elsewhere e.window
       ({ g with
          charts := g.charts.map (·.shown e.window)
          stats := (g.stats.addEchoes moved).countNavigation },
        .ok true)) := by
  have hpass := pass_follow hplain e.window none 0 (by rintro i - ⟨⟩)
  rw [navigated_of_own he hid, hpass]

/-- What comes of a choice that is recorded: the history is `written`, every chart that has an axis
    shows the window, and the counters count one window recorded and one echo for every other chart
    that showed something else. -/
structure Chosen (g : Group) (origin : Nat) (w : Window) (written : H)
    (result : Group × H × Except Fault Outcome) : Prop where
  answer : result.2.2 =
    .ok (.broadcast ((g.charts.eraseIdx origin).countP fun c => c.Elsewhere w))
  history : result.2.1 = written
  charts : List.Forall₂ (Chart.ShowsInstead w) g.charts result.1.charts
  stats : result.1.stats = { g.stats with
    pushes := g.stats.pushes + 1
    echoes := g.stats.echoes + (g.charts.eraseIdx origin).countP fun c => c.Elsewhere w }
  id : result.1.id = g.id
  minimum : result.1.minimumSpan = g.minimumSpan
  suppressed : result.1.suppressed = false

theorem userSet_chosen {g : Group} {h h' : H} {origin : Nat} {c : Chart} {a : Axis} {w : Window}
    (hopen : g.suppressed = false) (hplain : ∀ c ∈ g.charts, c.Plain)
    (hc : g.charts[origin]? = some c) (ha : c.axis = some a) (hw : w.Ordered)
    (hp : Recorder.push h ⟨g.id, w.widenedTo g.effectiveMinimum⟩ = (h', .ok ())) :
    g.Chosen origin (w.widenedTo g.effectiveMinimum) h' (g.userSet h origin w) := by
  rw [userSet_of_plain hopen hplain hc ha hp]
  refine ⟨rfl, rfl, ?_, rfl, rfl, rfl, hopen⟩
  rw [List.forall₂_map_right_iff, List.forall₂_same]
  exact fun d _ => Chart.shown_showsInstead (hw.widenedTo _) d

/-- The complete effect of a window that a user chooses on a chart with an axis, and of a preset,
    whose window is that of the preset at the end of the chart's full window. -/
theorem choice_effect {g : Group} {h : H} {origin : Nat} {c : Chart} {a : Axis}
    (hopen : g.suppressed = false) (hsound : g.Sound) (hplain : ∀ c ∈ g.charts, c.Plain)
    (hc : g.charts[origin]? = some c) (ha : c.axis = some a) :
    g.IsZoomLimit g.effectiveMinimum ∧
    (∀ w h', w.Ordered →
      Recorder.push h ⟨g.id, w.widenedTo g.effectiveMinimum⟩ = (h', .ok ()) →
      g.Chosen origin (w.widenedTo g.effectiveMinimum) h' (g.userSet h origin w)) ∧
    (∀ p h',
      Recorder.push h ⟨g.id, (p.resolve a.full).widenedTo g.effectiveMinimum⟩ = (h', .ok ()) →
      g.Chosen origin ((p.resolve a.full).widenedTo g.effectiveMinimum) h'
        (g.select h origin p)) := by
  refine ⟨effectiveMinimum_isZoomLimit hsound, ?_, ?_⟩
  · intro w h' hw hp
    exact userSet_chosen hopen hplain hc ha hw hp
  · intro p h' hp
    have hfull : a.full.Ordered := ((hsound.charts c (List.mem_of_getElem? hc)).axis a ha).full
    rw [select_of_axis hc ha]
    exact userSet_chosen hopen hplain hc ha (Preset.resolve_ordered hfull p) hp

/-- A chart that shows ten milliseconds, one that shows six, one without an axis, and again one that
    shows ten; windows are at least six milliseconds long. -/
def mixedGroup : Group :=
  ⟨⟨"load"⟩, [.showing ⟨0, 10⟩ [], .showing ⟨0, 6⟩ [],
    { Chart.showing ⟨0, 1⟩ [] with axis := none }, .showing ⟨0, 10⟩ []], false, 6, .none⟩

theorem choice_effect_mixed :
    (mixedGroup.userSet Trail.start 0 ⟨2, 4⟩).2.2 = .ok (.broadcast 1) ∧
    (mixedGroup.select Trail.start 1 .second).2.2 = .ok (.broadcast 2) := by
  have hsound : mixedGroup.Sound := by decide +kernel
  have hplain : ∀ c ∈ mixedGroup.charts, c.Plain := by decide +kernel
  obtain ⟨-, hset, -⟩ :=
    choice_effect (g := mixedGroup) (h := Trail.start) rfl hsound hplain (rfl : _[0]? = _) rfl
  obtain ⟨-, -, hselect⟩ :=
    choice_effect (g := mixedGroup) (h := Trail.start) rfl hsound hplain (rfl : _[1]? = _) rfl
  refine ⟨(hset ⟨2, 4⟩ _ (by decide +kernel) rfl).answer.trans ?_,
    (hselect .second _ rfl).answer.trans ?_⟩
  · exact congrArg (fun n => Except.ok (Outcome.broadcast n)) (by decide +kernel)
  · exact congrArg (fun n => Except.ok (Outcome.broadcast n)) (by decide +kernel)

end Group

end LinkedCharts
