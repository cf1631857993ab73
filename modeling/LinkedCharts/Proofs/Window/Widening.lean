import LinkedCharts.Proofs.Window

/-!
# What widening does to a window

A window that is shorter than a minimum gets new ends, at half the minimum on both sides of its
centre. The centre and the ends are rounded, so that the new window can miss the end of the old one
by a rounding, and can leave the finite numbers.

Results:
* `Window.Covers`: one window reaches as far as another one on both sides.
* `Window.Ordered.widenedTo_covers`: nothing is lost unless the window is shorter than the minimum
  and at least half as long.
* `Window.Overflows`, `Window.WellFormed.widenedTo_iff`: just what overflows is not well formed.
* `Window.not_overflows_of_moderate`: up to half of the largest numbers nothing overflows.
-/

namespace LinkedCharts

namespace Binary64

/-- The magnitude is at most half of where the finite numbers end. -/
def IsModerate (x : Binary64) : Prop := ∃ a ∈ x.place, 2 * a.natAbs ≤ limit

instance (x : Binary64) : Decidable x.IsModerate := inferInstanceAs (Decidable (∃ a ∈ x.place, _))

/-- A quarter of where the finite numbers end. -/
def quarter : Nat := 2 ^ (2096 : Nat)

theorem exists_quarter_eq : ∃ k : Nat, quarter = 2 ^ k := ⟨_, rfl⟩

theorem quarter_pos : 0 < quarter := by decide +kernel

theorem limit_eq_quarter : limit = 4 * quarter := by decide +kernel

/-- A few quarters of the limit are a magnitude of the format. -/
theorem fits_quarter {n : Nat} (h : n < 4) : Fits (n * quarter) := by
  constructor
  · rw [limit_eq_quarter]
    exact Nat.mul_lt_mul_of_pos_right h quarter_pos
  · obtain ⟨k, hk⟩ := exists_quarter_eq
    rw [hk]
    exact mul_two_pow_mod_spacing (by omega)

/-- Half of a moderate magnitude is at most a quarter of the limit. -/
theorem nearest_two_le_quarter {n : Nat} (h : n ≤ 2 * quarter) : nearest n 2 ≤ quarter := by
  have hgrid : quarter % spacing quarter = 0 := by
    have := (fits_quarter (n := 1) (by decide)).2
    rwa [Nat.one_mul] at this
  calc nearest n 2 ≤ nearest quarter 1 := nearest_mono (by decide) (by decide) (by omega)
    _ = quarter := nearest_of_grid hgrid

/-- A count of steps up to three quarters of the limit rounds to a finite number. -/
theorem stepsPlace_inside {i : Int} (h : i.natAbs ≤ 3 * quarter) :
    -(limit : Int) < stepsPlace i ∧ stepsPlace i < limit := by
  have hlimit := limit_eq_quarter
  have hpos := quarter_pos
  have hfits := fits_quarter (n := 3) (by decide)
  have hlow := stepsPlace_mono (i := signed true (3 * quarter)) (j := i) (by
    simp only [signed, if_true]
    omega)
  have hhigh := stepsPlace_mono (i := i) (j := signed false (3 * quarter)) (by
    simp only [signed, Bool.false_eq_true, if_false]
    omega)
  rw [stepsPlace_signed hfits] at hlow hhigh
  simp only [signed, if_true, Bool.false_eq_true, if_false] at hlow hhigh
  omega

end Binary64

namespace Window

open Binary64

variable {u v w : Window}

/-! ## Covering -/

/-- The window reaches as far as the other one on both sides. -/
structure Covers (v w : Window) : Prop where
  lo : v.lo ≤ w.lo
  hi : w.hi ≤ v.hi

instance (v w : Window) : Decidable (v.Covers w) :=
  decidable_of_iff (v.lo ≤ w.lo ∧ w.hi ≤ v.hi) ⟨fun h => ⟨h.1, h.2⟩, fun h => ⟨h.lo, h.hi⟩⟩

theorem Ordered.covers_self (h : w.Ordered) : w.Covers w :=
  ⟨le_refl h.lo_ne_nan, le_refl h.hi_ne_nan⟩

theorem Covers.trans (h : u.Covers v) (h' : v.Covers w) : u.Covers w :=
  ⟨le_trans h.lo h'.lo, le_trans h'.hi h.hi⟩

theorem Covers.contains (h : v.Covers w) {t : Binary64} (ht : w.Contains t) : v.Contains t :=
  ⟨le_trans h.lo ht.1, le_trans ht.2 h.hi⟩

theorem Ordered.union_covers_left (hv : v.Ordered) (hw : w.Ordered) : (v.union w).Covers v :=
  ⟨min_le_left hv.lo_ne_nan hw.lo_ne_nan, le_max_left hv.hi_ne_nan hw.hi_ne_nan⟩

theorem Ordered.union_covers_right (hw : w.Ordered) : (v.union w).Covers w :=
  ⟨Binary64.min_le_right hw.lo_ne_nan, le_max_right hw.hi_ne_nan⟩

/-! ## What widening loses -/

/-- What is not widened stays as it is. -/
theorem widenedTo_of_long {minimum : Binary64} (h : minimum.isFinite = false ∨ minimum ≤ w.span) :
    w.widenedTo minimum = w := by
  unfold Window.widenedTo
  rw [if_pos]
  simpa using h

/-- What is widened has its ends at half the minimum on both sides of the centre. -/
theorem widenedTo_of_short {minimum : Binary64} (hfin : minimum.isFinite = true)
    (h : ¬ minimum ≤ w.span) :
    w.widenedTo minimum =
      ⟨w.lo + w.span.half - minimum.half, w.lo + w.span.half + minimum.half⟩ := by
  unfold Window.widenedTo
  rw [if_neg]
  simpa [hfin] using h

/-- A window that is widened has finite ends and a finite span, and the minimum is positive. -/
theorem Ordered.of_short (h : w.Ordered) {minimum : Binary64} (hfin : minimum.isFinite = true)
    (hshort : ¬ minimum ≤ w.span) :
    w.lo.isFinite = true ∧ w.hi.isFinite = true ∧ w.span.isFinite = true ∧
      ∃ k, minimum.place = some k ∧ 0 < k := by
  obtain ⟨k, hk, -, hlt⟩ := isFinite_iff_place.1 hfin
  rcases h.finite_or_span with ⟨hlo, hhi⟩ | hinf
  · obtain ⟨a, b, -, -, -, hspan, hnonneg⟩ := h.span_place hlo hhi
    rw [le_iff_of_place hk hspan] at hshort
    exact ⟨hlo, hhi, isFinite_iff_place.2 ⟨_, hspan, by omega, by omega⟩, k, hk, by omega⟩
  · rw [hinf] at hshort
    exact absurd (le_infinite (ne_nan_of_isFinite hfin)) hshort

/-- A distance whose rounding is below a number is itself not above that number. -/
theorem le_of_stepsPlace_lt {x : Binary64} {p d : Int} (hx : x.isFinite = true)
    (hp : x.place = some p) (h : stepsPlace d < p) : d ≤ p := by
  by_contra hlt
  have hmono := stepsPlace_mono (i := p) (j := d) (by omega)
  rw [stepsPlace_of_place hx hp] at hmono
  omega

/-- A distance whose rounding is above a number is itself not below it. -/
theorem le_of_lt_stepsPlace {x : Binary64} {p d : Int} (hx : x.isFinite = true)
    (hp : x.place = some p) (h : p < stepsPlace d) : p ≤ d := by
  by_contra hlt
  have hmono := stepsPlace_mono (i := d) (j := p) (by omega)
  rw [stepsPlace_of_place hx hp] at hmono
  omega

/-- A window that is at least as long as the minimum, or shorter than half of it, is covered by what
    it is widened to. -/
theorem Ordered.widenedTo_covers (h : w.Ordered) {minimum : Binary64}
    (hroom : minimum ≤ w.span ∨ w.span < minimum.half) : (w.widenedTo minimum).Covers w := by
  by_cases hlong : minimum.isFinite = false ∨ minimum ≤ w.span
  · rw [widenedTo_of_long hlong]
    exact h.covers_self
  · obtain ⟨hfin, hshort⟩ := not_or.1 hlong
    have hfin : minimum.isFinite = true := by simpa using hfin
    have hlt := hroom.resolve_left hshort
    obtain ⟨hlo, hhi, hs, k, hk, hpos⟩ := h.of_short hfin hshort
    obtain ⟨a, b, ha, hb, -, hspan, -⟩ := h.span_place hlo hhi
    obtain ⟨hhalf, hplace⟩ := place_half hfin hk (by omega)
    rw [lt_iff_of_place hspan hplace] at hlt
    -- half the minimum is at least the exact distance of the ends
    have hdist : b - a ≤ nearest k.toNat 2 := le_of_stepsPlace_lt hhalf hplace hlt
    obtain ⟨hcfin, hcontains⟩ := h.centre hs
    obtain ⟨c, hc, -, -⟩ := isFinite_iff_place.1 hcfin
    have hac := (le_iff_of_place ha hc).1 hcontains.1
    have hcb := (le_iff_of_place hc hb).1 hcontains.2
    rw [widenedTo_of_short hfin hshort]
    refine ⟨?_, ?_⟩
    · rw [le_iff_of_place (place_sub hcfin hhalf hc hplace) ha]
      calc stepsPlace (c - nearest k.toNat 2) ≤ stepsPlace a := stepsPlace_mono (by omega)
        _ = a := stepsPlace_of_place hlo ha
    · rw [le_iff_of_place hb (place_add hcfin hhalf hc hplace)]
      calc b = stepsPlace b := (stepsPlace_of_place hhi hb).symm
        _ ≤ stepsPlace (c + nearest k.toNat 2) := stepsPlace_mono (by omega)

/-! ## Where widening overflows -/

/-- The window is shorter than a finite minimum, and half of that on a side of its centre leads
    beyond the finite numbers. -/
def Overflows (w : Window) (minimum : Binary64) : Prop :=
  minimum.isFinite = true ∧ ¬ minimum ≤ w.span ∧
    ¬ ((w.lo + w.span.half - minimum.half).isFinite = true ∧
      (w.lo + w.span.half + minimum.half).isFinite = true)

instance (w : Window) (minimum : Binary64) : Decidable (w.Overflows minimum) :=
  inferInstanceAs (Decidable (_ ∧ _ ∧ _))

/-- A well-formed window that is widened stays well formed just if it does not overflow. -/
theorem WellFormed.widenedTo_iff (h : w.WellFormed) (minimum : Binary64) :
    (w.widenedTo minimum).WellFormed ↔ ¬ w.Overflows minimum := by
  by_cases hlong : minimum.isFinite = false ∨ minimum ≤ w.span
  · rw [widenedTo_of_long hlong]
    refine ⟨fun _ => ?_, fun _ => h⟩
    rintro ⟨hfin, hshort, -⟩
    rcases hlong with hlong | hlong
    · rw [hfin] at hlong
      cases hlong
    · exact hshort hlong
  · obtain ⟨hfin, hshort⟩ := not_or.1 hlong
    have hfin : minimum.isFinite = true := by simpa using hfin
    have hord := h.ordered.widenedTo minimum
    rw [widenedTo_of_short hfin hshort] at hord ⊢
    constructor
    · rintro ⟨hlo, hhi, -⟩ ⟨-, -, hover⟩
      exact hover ⟨hlo, hhi⟩
    · intro hover
      by_contra hne
      exact hover ⟨hfin, hshort, fun hends => hne (hord.wellFormed hends.1 hends.2)⟩

/-- Nothing overflows while the ends and the minimum are at most half of the largest numbers. -/
theorem not_overflows_of_moderate (h : w.Ordered) (hlo : w.lo.IsModerate) (hhi : w.hi.IsModerate)
    {minimum : Binary64} (hm : minimum.IsModerate) : ¬ w.Overflows minimum := by
  rintro ⟨hfin, hshort, hover⟩
  obtain ⟨hlofin, hhifin, hs, k, hk, hpos⟩ := h.of_short hfin hshort
  obtain ⟨a, ha, hasmall⟩ := hlo
  obtain ⟨b, hb, hbsmall⟩ := hhi
  obtain ⟨k', hk', hksmall⟩ := hm
  cases hk.symm.trans hk'
  have hlimit := limit_eq_quarter
  obtain ⟨hcfin, hcontains⟩ := h.centre hs
  obtain ⟨c, hc, -, -⟩ := isFinite_iff_place.1 hcfin
  have hac := (le_iff_of_place ha hc).1 hcontains.1
  have hcb := (le_iff_of_place hc hb).1 hcontains.2
  obtain ⟨hhalf, hplace⟩ := place_half hfin hk (by omega)
  have hquarter : nearest k.toNat 2 ≤ quarter := nearest_two_le_quarter (by omega)
  have hsub := stepsPlace_inside (i := c - nearest k.toNat 2) (by omega)
  have hadd := stepsPlace_inside (i := c + nearest k.toNat 2) (by omega)
  refine hover ⟨?_, ?_⟩
  · exact isFinite_iff_place.2 ⟨_, place_sub hcfin hhalf hc hplace, hsub⟩
  · exact isFinite_iff_place.2 ⟨_, place_add hcfin hhalf hc hplace, hadd⟩

end Window

end LinkedCharts
