import LinkedCharts.Proofs.Chart
import LinkedCharts.Proofs.Window.Widening

/-!
# How far an axis reaches

The extent of some data is the smallest window that covers all of it, and it is well formed because
times that are not finite are refused. An axis over data is fitted to the extent once, and from then
on grown to one time after the other; growing never gives up what was covered.

Results:
* `extent?_eq_ok`, `extent?_wellFormed`: the extent covers all samples, and is well formed.
* `Axis.ofSamples?_eq_ok`: a fitted axis has the widened extent in full and in view.
* `Axis.WellFormed`, `Axis.ofSamples?_wellFormed_iff`: both windows are well formed, unless fitting
  overflows.
* `Chart.fitted`, `Chart.axisOfData?_eq_ok`: the axis that a chart fits to its data.
* `extent?_of_finite`, `Chart.axisOfData?_of_finite`, `Chart.growAxis?_of_finite`: only times that
  are not finite are refused.
* `Axis.growTo?_covers`, `Axis.growAxis?_covers`: growing covers the new times and all that was
  covered before.
-/

namespace LinkedCharts

open Binary64

/-! ## Extent -/

/-- The ends only ever move outwards, and around finite times. -/
theorem extentFrom_eq_ok {xs : List Sample} {ends result : Binary64 × Binary64}
    (h : extentFrom ends xs = .ok result) (hlo : ends.1 ≠ nan) (hhi : ends.2 ≠ nan) :
    result.1 ≤ ends.1 ∧ ends.2 ≤ result.2 ∧
      ∀ x ∈ xs, x.time.isFinite = true ∧ result.1 ≤ x.time ∧ x.time ≤ result.2 := by
  induction xs generalizing ends with
  | nil =>
    cases h
    refine ⟨le_refl hlo, le_refl hhi, ?_⟩
    rintro x ⟨⟩
  | cons x rest ih =>
    unfold extentFrom at h
    split at h
    · rename_i hx
      have hnan := ne_nan_of_isFinite hx
      have hmin := min_le_right (x := ends.1) hnan
      have hmax := le_max_right (x := ends.2) hnan
      obtain ⟨hlow, hhigh, hall⟩ := ih h (ne_nan_of_le hmin).1 (ne_nan_of_le hmax).2
      refine ⟨le_trans hlow (min_le_left hlo hnan), le_trans (le_max_left hhi hnan) hhigh, ?_⟩
      intro y hy
      rcases List.mem_cons.1 hy with rfl | hy
      · exact ⟨hx, le_trans hlow hmin, le_trans hmax hhigh⟩
      · exact hall y hy
    · cases h

/-- All samples have finite times and lie in the extent, so that there is one if there are
    samples. -/
theorem extent?_eq_ok {series : List (List Sample)} {o : Option Window}
    (h : extent? series = .ok o) :
    ∀ xs ∈ series, ∀ x ∈ xs,
      x.time.isFinite = true ∧ ∃ w, o = some w ∧ w.Contains x.time := by
  obtain ⟨⟨lo, hi⟩, hends, h⟩ := bind_eq_ok_iff.1 h
  obtain ⟨-, -, hall⟩ := extentFrom_eq_ok hends nofun nofun
  intro xs hxs x hx
  obtain ⟨hfinite, hlow, hhigh⟩ := hall x (List.mem_flatten_of_mem hxs hx)
  refine ⟨hfinite, ?_⟩
  dsimp only at h hlow hhigh
  split at h
  · rename_i hlt
    exact absurd (le_trans hlow hhigh) (not_le_of_lt hlt)
  · obtain ⟨w, hw, h⟩ := bind_eq_ok_iff.1 h
    cases h
    refine ⟨w, rfl, ?_⟩
    rw [(Window.make?_eq_ok_iff.1 hw).1]
    exact ⟨hlow, hhigh⟩

theorem extent?_wellFormed {series : List (List Sample)} {w : Window}
    (h : extent? series = .ok (some w)) : w.WellFormed := by
  obtain ⟨⟨lo, hi⟩, -, h⟩ := bind_eq_ok_iff.1 h
  dsimp only at h
  split at h
  · cases h
  · obtain ⟨v, hv, h⟩ := bind_eq_ok_iff.1 h
    cases h
    exact (Window.make?_eq_ok_iff.1 hv).2

/-- Finite times are never refused, and as soon as there is one the ends are finite and in order. -/
theorem extentFrom_of_finite {xs : List Sample} (h : ∀ x ∈ xs, x.time.isFinite = true)
    {lo hi : Binary64}
    (hends : lo = .infinite false ∧ hi = .infinite true ∨ (Window.mk lo hi).WellFormed) :
    ∃ lo' hi', extentFrom (lo, hi) xs = .ok (lo', hi') ∧
      (xs = [] ∧ lo' = lo ∧ hi' = hi ∨ (Window.mk lo' hi').WellFormed) := by
  induction xs generalizing lo hi with
  | nil => exact ⟨lo, hi, rfl, Or.inl ⟨rfl, rfl, rfl⟩⟩
  | cons x rest ih =>
    obtain ⟨hx, hrest⟩ := List.forall_mem_cons.1 h
    have hnext : (Window.mk (lo.min x.time) (hi.max x.time)).WellFormed := by
      rcases hends with ⟨rfl, rfl⟩ | hwell
      · rw [infinite_min hx, infinite_max hx]
        exact ⟨hx, hx, le_refl (ne_nan_of_isFinite hx)⟩
      · exact hwell.union (w := ⟨x.time, x.time⟩) ⟨hx, hx, le_refl (ne_nan_of_isFinite hx)⟩
    obtain ⟨lo', hi', hresult, hends'⟩ := ih hrest (Or.inr hnext)
    refine ⟨lo', hi', by rw [extentFrom, if_pos hx, hresult], Or.inr ?_⟩
    rcases hends' with ⟨-, rfl, rfl⟩ | hwell
    · exact hnext
    · exact hwell

theorem extent?_of_ends {series : List (List Sample)} {lo hi : Binary64}
    (h : extentFrom (.infinite false, .infinite true) series.flatten = .ok (lo, hi)) :
    extent? series = if hi < lo then .ok none else (Window.make? lo hi).map some := by
  unfold extent?
  rw [h]
  show (if hi < lo then _ else _) = _
  split
  · rfl
  · cases Window.make? lo hi with
    | error f => rfl
    | ok w => rfl

/-- Samples with finite times have an extent, unless there are none. -/
theorem extent?_of_finite {series : List (List Sample)}
    (h : ∀ xs ∈ series, ∀ x ∈ xs, x.time.isFinite = true) :
    ∃ o, extent? series = .ok o ∧ (o = none ↔ ∀ xs ∈ series, xs = []) := by
  have hall : ∀ x ∈ series.flatten, x.time.isFinite = true := by
    intro x hx
    obtain ⟨xs, hxs, hx⟩ := List.mem_flatten.1 hx
    exact h xs hxs x hx
  obtain ⟨lo, hi, hends, hresult⟩ := extentFrom_of_finite hall (Or.inl ⟨rfl, rfl⟩)
  rw [extent?_of_ends hends]
  rcases hresult with ⟨hempty, rfl, rfl⟩ | hwell
  · -- without a sample the ends are still turned around
    rw [if_pos infinite_lt]
    exact ⟨none, rfl, fun _ => List.flatten_eq_nil_iff.1 hempty, fun _ => rfl⟩
  · have hle : ¬ hi < lo := fun hlt => not_le_of_lt hlt hwell.2.2
    rw [if_neg hle, Window.make?_eq_ok_iff.2 ⟨rfl, hwell⟩]
    refine ⟨some ⟨lo, hi⟩, rfl, nofun, ?_⟩
    intro hempty
    rw [List.flatten_eq_nil_iff.2 hempty] at hends
    cases hends
    cases hwell.1

namespace Axis

variable {a b : Axis}

/-- A fitted axis has the extent, widened to the minimum, in full and in view. -/
theorem ofSamples?_eq_ok {series : List (List Sample)} {minimum : Binary64}
    (h : ofSamples? series minimum = .ok a) :
    ∃ w, extent? series = .ok (some w) ∧ a = ⟨w.widenedTo minimum, w.widenedTo minimum⟩ := by
  obtain ⟨data, hdata, h⟩ := bind_eq_ok_iff.1 h
  cases data with
  | none => cases h
  | some w =>
    cases h
    exact ⟨w, hdata, rfl⟩

/-! ## Growing -/

/-- What growing to a time does: the full window covers that time, and all it covered before. -/
theorem growTo?_eq_ok {time : Binary64} {grew : Bool} (h : a.growTo? time = .ok (b, grew)) :
    time.isFinite = true ∧ b.visible = a.visible ∧
      (b.full = a.full ∧ a.full.Contains time ∨ b.full = a.full.union ⟨time, time⟩) := by
  unfold growTo? at h
  split at h
  · cases h
  · rename_i hfinite
    have hfinite := not_not.1 hfinite
    split at h
    · cases h
      exact ⟨hfinite, rfl, Or.inl ⟨rfl, by assumption⟩⟩
    · obtain ⟨point, hpoint, h⟩ := bind_eq_ok_iff.1 h
      cases h
      rw [(Window.make?_eq_ok_iff.1 hpoint).1]
      exact ⟨hfinite, rfl, Or.inr rfl⟩

theorem point_wellFormed {time : Binary64} (h : time.isFinite = true) :
    (Window.mk time time).WellFormed := ⟨h, h, le_refl (ne_nan_of_isFinite h)⟩

/-- Growing to a time covers it and all that was covered before. -/
theorem growTo?_covers {time : Binary64} {grew : Bool} (ha : a.full.Ordered)
    (h : a.growTo? time = .ok (b, grew)) :
    b.full.Ordered ∧ b.full.Covers a.full ∧ b.full.Contains time := by
  obtain ⟨hfinite, -, ⟨hfull, htime⟩ | hfull⟩ := growTo?_eq_ok h
  · rw [hfull]
    exact ⟨ha, ha.covers_self, htime⟩
  · rw [hfull]
    have hpoint := (point_wellFormed hfinite).ordered
    exact ⟨ha.union hpoint, ha.union_covers_left hpoint,
      hpoint.union_covers_right.contains ⟨hpoint.le, hpoint.le⟩⟩

/-- An axis grown to the newest samples of series covers them and all that it covered before. -/
theorem growAxis?_covers {series : List Series} {grew grew' : Bool} (ha : a.full.Ordered)
    (h : Chart.growAxis? a grew series = .ok (b, grew')) :
    b.full.Ordered ∧ b.full.Covers a.full ∧
      ∀ s ∈ series, ∀ last ∈ s.lastTime?, b.full.Contains last := by
  induction series generalizing a grew with
  | nil =>
    cases h
    refine ⟨ha, ha.covers_self, ?_⟩
    rintro s ⟨⟩
  | cons s rest ih =>
    unfold Chart.growAxis? at h
    split at h
    · rename_i hnone
      obtain ⟨hb, hcovers, hall⟩ := ih ha h
      refine ⟨hb, hcovers, ?_⟩
      intro u hu last hlast
      rcases List.mem_cons.1 hu with rfl | hu
      · rw [hnone] at hlast
        cases hlast
      · exact hall u hu last hlast
    · rename_i time htime
      obtain ⟨⟨a', more⟩, ha', h⟩ := bind_eq_ok_iff.1 h
      obtain ⟨hord, hcover, hcontains⟩ := growTo?_covers ha ha'
      obtain ⟨hb, hcovers, hall⟩ := ih hord h
      refine ⟨hb, hcovers.trans hcover, ?_⟩
      intro u hu last hlast
      rcases List.mem_cons.1 hu with rfl | hu
      · cases htime.symm.trans hlast
        exact hcovers.contains hcontains
      · exact hall u hu last hlast

theorem growTo?_of_finite (a : Axis) {time : Binary64} (h : time.isFinite = true) :
    ∃ b grew, a.growTo? time = .ok (b, grew) := by
  unfold growTo?
  rw [if_neg (not_not.2 h)]
  split
  · exact ⟨a, false, rfl⟩
  · rw [Window.make?_eq_ok_iff.2 ⟨rfl, point_wellFormed h⟩]
    exact ⟨_, true, rfl⟩

/-! ## Well-formed axes -/

/-- Both windows are well formed. -/
structure WellFormed (a : Axis) : Prop where
  full : a.full.WellFormed
  visible : a.visible.WellFormed

instance (a : Axis) : Decidable a.WellFormed :=
  decidable_of_iff (a.full.WellFormed ∧ a.visible.WellFormed)
    ⟨fun h => ⟨h.1, h.2⟩, fun h => ⟨h.full, h.visible⟩⟩

theorem WellFormed.moveTo (h : a.WellFormed) {w : Window} (hw : w.WellFormed) :
    (a.moveTo w).1.WellFormed := by
  unfold Axis.moveTo
  split
  · exact h
  · exact ⟨h.full, hw⟩

theorem WellFormed.growTo? (h : a.WellFormed) {time : Binary64} {grew : Bool}
    (hb : a.growTo? time = .ok (b, grew)) : b.WellFormed := by
  obtain ⟨hfinite, hvisible, ⟨hfull, -⟩ | hfull⟩ := growTo?_eq_ok hb
  · exact ⟨hfull ▸ h.full, hvisible ▸ h.visible⟩
  · exact ⟨hfull ▸ h.full.union (point_wellFormed hfinite), hvisible ▸ h.visible⟩

theorem WellFormed.growAxis? (h : a.WellFormed) {series : List Series} {grew grew' : Bool}
    (hb : Chart.growAxis? a grew series = .ok (b, grew')) : b.WellFormed := by
  induction series generalizing a grew with
  | nil =>
    cases hb
    exact h
  | cons s rest ih =>
    unfold Chart.growAxis? at hb
    split at hb
    · exact ih h hb
    · obtain ⟨⟨a', more⟩, ha', hb⟩ := bind_eq_ok_iff.1 hb
      exact ih (h.growTo? ha') hb

/-- A fitted axis is well formed just if widening the extent does not overflow. -/
theorem ofSamples?_wellFormed_iff {series : List (List Sample)} {minimum : Binary64}
    (h : ofSamples? series minimum = .ok a) :
    a.WellFormed ↔ ∀ w, extent? series = .ok (some w) → ¬ w.Overflows minimum := by
  obtain ⟨w, hw, rfl⟩ := ofSamples?_eq_ok h
  have hiff := (extent?_wellFormed hw).widenedTo_iff minimum
  constructor
  · intro ha v hv
    cases hw.symm.trans hv
    exact hiff.1 ha.full
  · exact fun hover => ⟨hiff.2 (hover w hw), hiff.2 (hover w hw)⟩

end Axis

/-! ## Axes of charts -/

namespace Chart

/-- The axis that is fitted to an extent: widened to the minimum, with the window of the preset
    visible. -/
def fitted (settings : ChartSettings) (w : Window) : Axis :=
  let full := w.widenedTo settings.minimumSpan
  ((Axis.mk full full).moveTo (settings.preset.resolve full)).1

theorem fitted_full (settings : ChartSettings) (w : Window) :
    (fitted settings w).full = w.widenedTo settings.minimumSpan := Axis.moveTo_full _ _

theorem fitted_wellFormed_iff (settings : ChartSettings) {w : Window} (h : w.WellFormed) :
    (fitted settings w).WellFormed ↔ ¬ w.Overflows settings.minimumSpan := by
  rw [← h.widenedTo_iff]
  constructor
  · intro hfitted
    exact fitted_full settings w ▸ hfitted.full
  · intro hfull
    exact Axis.WellFormed.moveTo ⟨hfull, hfull⟩ (Preset.resolve_wellFormed hfull _)

/-- Data calls for the axis that is fitted to its extent. -/
theorem axisOfData?_eq_ok {settings : ChartSettings} {series : List Series} {o : Option Axis}
    (h : axisOfData? settings series = .ok o) :
    ∃ data, extent? (series.map fun s => s.samples.toList) = .ok data ∧
      o = data.map (fitted settings) := by
  obtain ⟨data, hdata, h⟩ := bind_eq_ok_iff.1 h
  refine ⟨data, hdata, ?_⟩
  cases data with
  | none =>
    cases h
    rfl
  | some w =>
    obtain ⟨axis, haxis, h⟩ := bind_eq_ok_iff.1 h
    cases h
    obtain ⟨v, hv, rfl⟩ := Axis.ofSamples?_eq_ok haxis
    cases hdata.symm.trans hv
    rfl

/-- Finite data is never refused, and calls for an axis unless there is none. -/
theorem axisOfData?_of_finite (settings : ChartSettings) {series : List Series}
    (h : ∀ s ∈ series, ∀ x ∈ s.samples, x.time.isFinite = true) :
    ∃ o, axisOfData? settings series = .ok o ∧ (o = none ↔ ∀ s ∈ series, s.samples = #[]) := by
  have hall : ∀ xs ∈ series.map fun s => s.samples.toList, ∀ x ∈ xs, x.time.isFinite = true := by
    intro xs hxs x hx
    obtain ⟨s, hs, rfl⟩ := List.mem_map.1 hxs
    exact h s hs x (Array.mem_toList_iff.1 hx)
  obtain ⟨data, hdata, hnone⟩ := extent?_of_finite hall
  have hempty : (∀ xs ∈ series.map fun s => s.samples.toList, xs = []) ↔
      ∀ s ∈ series, s.samples = #[] := by
    rw [List.forall_mem_map]
    exact forall₂_congr fun s _ => Array.toList_eq_nil_iff
  unfold axisOfData? Axis.ofSamples?
  dsimp only
  rw [hdata]
  cases data with
  | none => exact ⟨none, rfl, fun _ => hempty.1 (hnone.1 rfl), fun _ => rfl⟩
  | some w => exact ⟨_, rfl, nofun, fun h => absurd (hnone.2 (hempty.2 h)) nofun⟩

/-- An axis always grows to newest samples with finite times. -/
theorem growAxis?_of_finite (a : Axis) (grew : Bool) {series : List Series}
    (h : ∀ s ∈ series, ∀ last ∈ s.lastTime?, last.isFinite = true) :
    ∃ b grew', growAxis? a grew series = .ok (b, grew') := by
  induction series generalizing a grew with
  | nil => exact ⟨a, grew, rfl⟩
  | cons s rest ih =>
    obtain ⟨hs, hrest⟩ := List.forall_mem_cons.1 h
    unfold growAxis?
    split
    · exact ih a grew hrest
    · rename_i last hlast
      obtain ⟨b, more, hb⟩ := a.growTo?_of_finite (hs last hlast)
      rw [hb]
      exact ih b (grew || more) hrest

end Chart

end LinkedCharts
