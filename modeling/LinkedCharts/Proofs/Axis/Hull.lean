import LinkedCharts.Proofs.Axis
import LinkedCharts.Proofs.Series.Ascending
import Mathlib.Data.Set.Insert

/-!
# Extents and full windows are hulls

The extent of some data is found in one sweep over the samples, with two running ends that start at
the infinities. The full window of an axis grows to one time after the other. Both come to the hull
of the times that went in, the smallest window that holds them all. A hull knows nothing of an
order, and two hulls of the same times have equal ends; so neither the order of the samples nor that
of the times makes a difference, but for the sign of a zero.

The invariant of both is that every end is one of the times, or one of the infinities at the start.

Results:
* `Window.IsHull`: the smallest window that holds some times.
* `Window.IsHull.same`: any two have equal ends.
* `Window.IsHull.of_ends`, `Window.IsHull.union_point`: what makes a window a hull.
* `extent?_eq_error_iff`, `extent?_eq_none_iff`, `extent?_isHull`: the three outcomes of an extent.
* `Axis.growAll?`: an axis that grows to some times in turn.
* `Axis.growTo?_isHull`, `Axis.growAll?_isHull`: one step, and a whole run.
* `extents_are_hulls`: both, in any order.
-/

namespace LinkedCharts

open Binary64

/-! ## Hulls -/

namespace Window

variable {v w : Window} {times : Set Binary64} {t : Binary64}

/-- The smallest window that holds some times: every window that holds them covers it. -/
structure IsHull (w : Window) (times : Set Binary64) : Prop where
  contains : ∀ t ∈ times, w.Contains t
  least : ∀ v : Window, (∀ t ∈ times, v.Contains t) → v.Covers w

/-- There is one hull at most, up to the sign of zeros. -/
theorem IsHull.same (hv : v.IsHull times) (hw : w.IsHull times) : v.Same w := by
  have hvw := hw.least v hv.contains
  have hwv := hv.least w hw.contains
  exact ⟨⟨hvw.lo, hwv.lo⟩, ⟨hwv.hi, hvw.hi⟩⟩

/-- A window whose ends are among the times that it holds is their hull. -/
theorem IsHull.of_ends (hall : ∀ t ∈ times, w.Contains t) (hlo : w.lo ∈ times)
    (hhi : w.hi ∈ times) : w.IsHull times where
  contains := hall
  least _ hv := ⟨(hv w.lo hlo).1, (hv w.hi hhi).2⟩

/-- A window is the hull of all that it holds. -/
theorem Ordered.isHull (h : w.Ordered) : w.IsHull {t | w.Contains t} :=
  .of_ends (fun _ ht => ht) ⟨le_refl h.lo_ne_nan, h.le⟩ ⟨h.le, le_refl h.hi_ne_nan⟩

/-- A time more that a hull holds already. -/
theorem IsHull.insert_of_contains (h : w.IsHull times) (ht : w.Contains t) :
    w.IsHull (insert t times) where
  contains s hs := by
    rcases Set.mem_insert_iff.1 hs with rfl | hs
    · exact ht
    · exact h.contains s hs
  least v hv := h.least v fun s hs => hv s (Set.mem_insert_of_mem t hs)

/-- A hull that is joined with a time more. -/
theorem IsHull.union_point (h : w.IsHull times) (hw : w.Ordered) (ht : t.isFinite = true) :
    (w.union ⟨t, t⟩).IsHull (insert t times) where
  contains s hs := by
    have hpoint := (Axis.point_wellFormed ht).ordered
    rcases Set.mem_insert_iff.1 hs with rfl | hs
    · exact hpoint.union_covers_right.contains ⟨hpoint.le, hpoint.le⟩
    · exact (hw.union_covers_left hpoint).contains (h.contains s hs)
  least v hv := by
    have ht := hv t (Set.mem_insert t times)
    have hcovers := h.least v fun s hs => hv s (Set.mem_insert_of_mem t hs)
    constructor
    · show v.lo ≤ w.lo.min t
      rcases min_eq_or w.lo t with heq | heq
      · rw [heq]
        exact hcovers.lo
      · rw [heq]
        exact ht.1
    · show w.hi.max t ≤ v.hi
      rcases max_eq_or w.hi t with heq | heq
      · rw [heq]
        exact hcovers.hi
      · rw [heq]
        exact ht.2

end Window

/-! ## Extents -/

section Extent

variable {series : List (List Sample)}

theorem extentFrom_of_not_finite {xs : List Sample} (h : ∃ x ∈ xs, x.time.isFinite = false)
    (ends : Binary64 × Binary64) : extentFrom ends xs = .error (.invalidData .nonFiniteTime) := by
  induction xs generalizing ends with
  | nil =>
    obtain ⟨x, ⟨⟩, -⟩ := h
  | cons x rest ih =>
    unfold extentFrom
    split
    · rename_i hx
      obtain ⟨y, hy, hinfinite⟩ := h
      rcases List.mem_cons.1 hy with rfl | hy
      · rw [hx] at hinfinite
        cases hinfinite
      · exact ih ⟨y, hy, hinfinite⟩ _
    · rfl

/-- Every end is one that the sweep began with, or the time of a sample. -/
theorem extentFrom_ends {xs : List Sample} {ends result : Binary64 × Binary64}
    (h : extentFrom ends xs = .ok result) :
    (result.1 = ends.1 ∨ result.1 ∈ Sample.times xs) ∧
      (result.2 = ends.2 ∨ result.2 ∈ Sample.times xs) := by
  induction xs generalizing ends with
  | nil =>
    cases h
    exact ⟨Or.inl rfl, Or.inl rfl⟩
  | cons x rest ih =>
    have hfirst : x.time ∈ Sample.times (x :: rest) := ⟨x, List.mem_cons_self, rfl⟩
    have hrest : ∀ t ∈ Sample.times rest, t ∈ Sample.times (x :: rest) := by
      rintro t ⟨y, hy, rfl⟩
      exact ⟨y, List.mem_cons_of_mem x hy, rfl⟩
    unfold extentFrom at h
    split at h
    · obtain ⟨hlo, hhi⟩ := ih h
      constructor
      · rcases hlo with hlo | hlo
        · rw [hlo]
          refine (min_eq_or ends.1 x.time).imp_right fun heq => ?_
          rw [heq]
          exact hfirst
        · exact Or.inr (hrest _ hlo)
      · rcases hhi with hhi | hhi
        · rw [hhi]
          refine (max_eq_or ends.2 x.time).imp_right fun heq => ?_
          rw [heq]
          exact hfirst
        · exact Or.inr (hrest _ hhi)
    · cases h

/-- Data is refused just if a time in it is not finite, and for no other reason. -/
theorem extent?_eq_error_iff {f : Fault} :
    extent? series = .error f ↔
      f = .invalidData .nonFiniteTime ∧ ∃ x ∈ series.flatten, x.time.isFinite = false := by
  by_cases h : ∃ x ∈ series.flatten, x.time.isFinite = false
  · have hends := extentFrom_of_not_finite h (.infinite false, .infinite true)
    have hextent : extent? series = .error (.invalidData .nonFiniteTime) := by
      unfold extent?
      rw [hends]
      rfl
    rw [hextent]
    constructor
    · rintro ⟨⟩
      exact ⟨rfl, h⟩
    · rintro ⟨rfl, -⟩
      rfl
  · have hfinite : ∀ xs ∈ series, ∀ x ∈ xs, x.time.isFinite = true := by
      intro xs hxs x hx
      by_contra hinfinite
      exact h ⟨x, List.mem_flatten_of_mem hxs hx, Bool.eq_false_iff.2 hinfinite⟩
    obtain ⟨o, ho, -⟩ := extent?_of_finite hfinite
    rw [ho]
    constructor
    · rintro ⟨⟩
    · exact fun hf => absurd hf.2 h

/-- There is no extent just if there are no samples. -/
theorem extent?_eq_none_iff : extent? series = .ok none ↔ series.flatten = [] := by
  constructor
  · intro hnone
    rw [List.eq_nil_iff_forall_not_mem]
    intro x hx
    obtain ⟨xs, hxs, hx⟩ := List.mem_flatten.1 hx
    obtain ⟨-, w, ⟨⟩, -⟩ := extent?_eq_ok hnone xs hxs x hx
  · intro hempty
    have hnil := List.flatten_eq_nil_iff.1 hempty
    have hfinite : ∀ xs ∈ series, ∀ x ∈ xs, x.time.isFinite = true := by
      intro xs hxs x hx
      rw [hnil xs hxs] at hx
      cases hx
    obtain ⟨o, ho, hiff⟩ := extent?_of_finite hfinite
    rw [ho, hiff.2 hnil]

/-- An extent is the hull of the times: its ends are finite, so that they are no longer those that
    the sweep began with. -/
theorem extent?_isHull {w : Window} (h : extent? series = .ok (some w)) :
    w.IsHull (Sample.times series.flatten) := by
  have hwell := extent?_wellFormed h
  have hcontains := extent?_eq_ok h
  obtain ⟨⟨lo, hi⟩, hends, hmake⟩ := bind_eq_ok_iff.1 h
  have hw : w = ⟨lo, hi⟩ := by
    dsimp only at hmake
    split at hmake
    · cases hmake
    · obtain ⟨v, hv, hmake⟩ := bind_eq_ok_iff.1 hmake
      cases hmake
      exact (Window.make?_eq_ok_iff.1 hv).1
  subst hw
  obtain ⟨hlo, hhi⟩ := extentFrom_ends hends
  refine .of_ends ?_ ?_ ?_
  · rintro t ⟨x, hx, rfl⟩
    obtain ⟨xs, hxs, hx⟩ := List.mem_flatten.1 hx
    obtain ⟨-, v, hv, ht⟩ := hcontains xs hxs x hx
    obtain rfl := Option.some.inj hv
    exact ht
  · rcases hlo with rfl | hlo
    · cases hwell.1
    · exact hlo
  · rcases hhi with rfl | hhi
    · cases hwell.2.1
    · exact hhi

/-- Finite data has an extent as soon as there is a sample. -/
theorem exists_extent? (hfinite : ∀ x ∈ series.flatten, x.time.isFinite = true)
    (hne : series.flatten ≠ []) : ∃ w, extent? series = .ok (some w) := by
  cases hextent : extent? series with
  | error f =>
    obtain ⟨-, x, hx, hinfinite⟩ := extent?_eq_error_iff.1 hextent
    rw [hfinite x hx] at hinfinite
    cases hinfinite
  | ok o =>
    cases o with
    | none => exact absurd (extent?_eq_none_iff.1 hextent) hne
    | some w => exact ⟨w, rfl⟩

end Extent

/-! ## Axes that grow -/

namespace Axis

variable {a b : Axis} {times : Set Binary64}

/-- Growing to a finite time always succeeds, and tells whether the time was outside. A full window
    that is a hull becomes the hull with the time. -/
theorem growTo?_isHull (ha : a.full.WellFormed) (h : a.full.IsHull times) {t : Binary64}
    (ht : t.isFinite = true) :
    ∃ b, a.growTo? t = .ok (b, decide (¬ a.full.Contains t)) ∧ b.visible = a.visible ∧
      b.full.WellFormed ∧ b.full.IsHull (insert t times) := by
  unfold growTo?
  rw [if_neg (not_not.2 ht)]
  by_cases hin : a.full.Contains t
  · rw [if_pos hin]
    refine ⟨a, ?_, rfl, ha, h.insert_of_contains hin⟩
    rw [decide_eq_false (not_not.2 hin)]
  · rw [if_neg hin, Window.make?_eq_ok_iff.2 ⟨rfl, point_wellFormed ht⟩]
    refine ⟨{ a with full := a.full.union ⟨t, t⟩ }, ?_, rfl, ha.union (point_wellFormed ht),
      h.union_point ha.ordered ht⟩
    rw [decide_eq_true hin]
    rfl

/-- The axis after it has grown to some times in turn. -/
def growAll? (a : Axis) : List Binary64 → Except Fault Axis
  | [] => .ok a
  | t :: rest => do
    let (b, _) ← a.growTo? t
    b.growAll? rest

/-- However many times an axis grows to, it succeeds, shows what it showed, and its full window is
    the hull of what it was the hull of and of these times. -/
theorem growAll?_isHull {ts : List Binary64} (hts : ∀ t ∈ ts, t.isFinite = true)
    (ha : a.full.WellFormed) (h : a.full.IsHull times) :
    ∃ b, a.growAll? ts = .ok b ∧ b.visible = a.visible ∧ b.full.WellFormed ∧
      b.full.IsHull (times ∪ {t | t ∈ ts}) := by
  induction ts generalizing a times with
  | nil =>
    refine ⟨a, rfl, rfl, ha, ?_⟩
    have hsame : times ∪ {s | s ∈ []} = times := by
      ext s
      simp
    rw [hsame]
    exact h
  | cons t rest ih =>
    obtain ⟨ht, hrest⟩ := List.forall_mem_cons.1 hts
    obtain ⟨b, hb, hvisible, hwell, hhull⟩ := growTo?_isHull ha h ht
    obtain ⟨c, hc, hshown, hwell', hhull'⟩ := ih hrest hwell hhull
    refine ⟨c, ?_, hshown.trans hvisible, hwell', ?_⟩
    · rw [growAll?, hb]
      exact hc
    · have hsame : times ∪ {s | s ∈ t :: rest} = insert t times ∪ {s | s ∈ rest} := by
        ext s
        simp only [Set.mem_union, Set.mem_insert_iff, Set.mem_ofPred_eq, List.mem_cons]
        tauto
      rw [hsame]
      exact hhull'

end Axis

/-! ## Both -/

/-- Extents and grown windows are hulls. Data has no extent because it is refused, just if a time in
    it is not finite, or because there are no samples; else its extent is a well-formed window, the
    smallest that holds all times, and with its samples in another order, within series or across
    them, the extent has the same ends. And an axis with a well-formed full window that grows to
    finite times in turn ends with the smallest full window that holds the one at first and all the
    times, whatever their order; each time it says whether the time was outside of the full window
    by then, and it always shows what it showed. -/
theorem extents_are_hulls :
    (∀ series : List (List Sample),
      (∀ f, extent? series = .error f ↔
        f = .invalidData .nonFiniteTime ∧ ∃ x ∈ series.flatten, x.time.isFinite = false) ∧
      (extent? series = .ok none ↔ series.flatten = []) ∧
      ((∀ x ∈ series.flatten, x.time.isFinite = true) → series.flatten ≠ [] →
        ∃ w, extent? series = .ok (some w) ∧ w.WellFormed ∧
          w.IsHull (Sample.times series.flatten) ∧
          ∀ other : List (List Sample), series.flatten.Perm other.flatten →
            ∃ v, extent? other = .ok (some v) ∧ v.Same w)) ∧
    ∀ a : Axis, a.full.WellFormed → ∀ ts : List Binary64, (∀ t ∈ ts, t.isFinite = true) →
      (∃ b, a.growAll? ts = .ok b ∧ b.full.WellFormed ∧
        b.full.IsHull {t | a.full.Contains t ∨ t ∈ ts} ∧ b.visible = a.visible ∧
        ∀ others : List Binary64, ts.Perm others →
          ∃ c, a.growAll? others = .ok c ∧ c.full.Same b.full ∧ c.visible = a.visible) ∧
      ∀ before t after, ts = before ++ t :: after →
        ∃ b c, a.growAll? before = .ok b ∧ b.visible = a.visible ∧
          b.growTo? t = .ok (c, decide (¬ b.full.Contains t)) ∧ c.visible = a.visible := by
  refine ⟨fun series => ⟨fun f => extent?_eq_error_iff, extent?_eq_none_iff, ?_⟩, ?_⟩
  · intro hfinite hne
    obtain ⟨w, hw⟩ := exists_extent? hfinite hne
    refine ⟨w, hw, extent?_wellFormed hw, extent?_isHull hw, ?_⟩
    intro other hperm
    obtain ⟨v, hv⟩ := exists_extent? (fun x hx => hfinite x (hperm.mem_iff.2 hx)) fun hnil =>
      hne (List.perm_nil.1 (hnil ▸ hperm))
    have htimes : Sample.times other.flatten = Sample.times series.flatten := by
      ext t
      exact exists_congr fun x => and_congr_left' hperm.mem_iff.symm
    exact ⟨v, hv, (extent?_isHull hv).same (htimes ▸ extent?_isHull hw)⟩
  · intro a ha ts hts
    have hfirst := ha.ordered.isHull
    constructor
    · obtain ⟨b, hb, hvisible, hwell, hhull⟩ := Axis.growAll?_isHull hts ha hfirst
      refine ⟨b, hb, hwell, hhull, hvisible, ?_⟩
      intro others hperm
      obtain ⟨c, hc, hshown, -, hhull'⟩ :=
        Axis.growAll?_isHull (fun t ht => hts t (hperm.mem_iff.2 ht)) ha hfirst
      have hsame : {t | t ∈ others} = {t | t ∈ ts} := Set.ext fun t => hperm.mem_iff.symm
      rw [hsame] at hhull'
      exact ⟨c, hc, hhull'.same hhull, hshown⟩
    · rintro before t after rfl
      obtain ⟨hbefore, hnext⟩ := List.forall_mem_append.1 hts
      obtain ⟨b, hb, hvisible, hwell, hhull⟩ := Axis.growAll?_isHull hbefore ha hfirst
      obtain ⟨c, hc, hshown, -, -⟩ := Axis.growTo?_isHull hwell hhull (hnext t List.mem_cons_self)
      exact ⟨b, c, hb, hvisible, hc, hshown.trans hvisible⟩

/-- Two series that overlap, and the same samples in one series the other way round; an axis that
    shows a part of what it covers, and times on both sides of that and inside. -/
theorem extents_are_hulls_overlapping :
    (∃ w v, extent? [[⟨10, 1⟩, ⟨20, 1⟩], [⟨5, 1⟩, ⟨15, 1⟩]] = .ok (some w) ∧
      extent? [[⟨15, 1⟩, ⟨5, 1⟩, ⟨20, 1⟩, ⟨10, 1⟩]] = .ok (some v) ∧ v.Same w ∧
      w.IsHull (Sample.times [⟨10, 1⟩, ⟨20, 1⟩, ⟨5, 1⟩, ⟨15, 1⟩])) ∧
    ∃ b c, (Axis.mk ⟨0, 100⟩ ⟨20, 30⟩).growAll? [150, 50, -5] = .ok b ∧
      (Axis.mk ⟨0, 100⟩ ⟨20, 30⟩).growAll? [-5, 150, 50] = .ok c ∧ c.full.Same b.full ∧
      b.full.IsHull {t | Window.Contains ⟨0, 100⟩ t ∨ t ∈ [150, 50, -5]} ∧
      b.visible = ⟨20, 30⟩ := by
  constructor
  · obtain ⟨w, hw, -, hhull, hother⟩ :=
      (extents_are_hulls.1 [[⟨10, 1⟩, ⟨20, 1⟩], [⟨5, 1⟩, ⟨15, 1⟩]]).2.2 (by decide +kernel)
        (by decide +kernel)
    obtain ⟨v, hv, hsame⟩ := hother [[⟨15, 1⟩, ⟨5, 1⟩, ⟨20, 1⟩, ⟨10, 1⟩]] (by decide +kernel)
    exact ⟨w, v, hw, hv, hsame, hhull⟩
  · obtain ⟨⟨b, hb, -, hhull, hvisible, hother⟩, -⟩ :=
      extents_are_hulls.2 ⟨⟨0, 100⟩, ⟨20, 30⟩⟩ (by decide +kernel) [150, 50, -5] (by decide +kernel)
    obtain ⟨c, hc, hsame, -⟩ := hother [-5, 150, 50] (by decide +kernel)
    exact ⟨b, c, hb, hc, hsame, hhull, hvisible⟩

end LinkedCharts
