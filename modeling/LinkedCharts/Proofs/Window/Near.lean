import LinkedCharts.Proofs.Window.Widening

/-!
# Windows with almost the same ends

Whether a chart shows all of its data is decided by the distances between the ends of two windows,
each distance rounded. Rounding keeps the order, so that a window that grows around another one only
gets farther away from it. Distances to an infinity are infinite, or none at all.

Results:
* `Binary64.abs_sub_le`: a number that lies between two others is not farther away.
* `Window.Near.of_covers`: a window between two others is at least as near.
* `Window.Near.isFinite`: only finite ends are near each other.
* `Window.Same.near`, `Window.Near.of_same`: windows with equal ends are as near as can be.
-/

namespace LinkedCharts

namespace Binary64

variable {x y z : Binary64}

theorem place_abs {a : Int} (hx : x.place = some a) : x.abs.place = some (a.natAbs : Int) := by
  cases x with
  | finite s n h =>
    cases hx
    rw [natAbs_signed]
    rfl
  | infinite s =>
    cases hx
    rw [natAbs_signed]
    rfl
  | nan => cases hx

/-- A number that lies between two others is not farther away from the first than the second is,
    also after rounding. -/
theorem abs_sub_le (hx : x.isFinite = true) (hy : y.isFinite = true) (hz : z.isFinite = true)
    (h : z ≤ y ∧ y ≤ x ∨ x ≤ y ∧ y ≤ z) : (x - y).abs ≤ (x - z).abs := by
  obtain ⟨a, ha, -, -⟩ := isFinite_iff_place.1 hx
  obtain ⟨b, hb, -, -⟩ := isFinite_iff_place.1 hy
  obtain ⟨c, hc, -, -⟩ := isFinite_iff_place.1 hz
  rw [le_iff_of_place hc hb, le_iff_of_place hb ha, le_iff_of_place ha hb,
    le_iff_of_place hb hc] at h
  rw [le_iff_of_place (place_abs (place_sub hx hy ha hb)) (place_abs (place_sub hx hz ha hc))]
  have hzero := stepsPlace_zero
  rcases h with ⟨hcb, hba⟩ | ⟨hab, hbc⟩
  · have hnear := stepsPlace_mono (i := 0) (j := a - b) (by omega)
    have hfar := stepsPlace_mono (i := a - b) (j := a - c) (by omega)
    omega
  · have hnear := stepsPlace_mono (i := a - b) (j := 0) (by omega)
    have hfar := stepsPlace_mono (i := a - c) (j := a - b) (by omega)
    omega

/-- What equals a finite number is finite. -/
theorem Same.isFinite (h : x.Same y) (hy : y.isFinite = true) : x.isFinite = true :=
  isFinite_of_between hy hy h.2 h.1

/-- Equal numbers are at no distance. -/
theorem Same.abs_sub_le (h : x.Same y) (hy : y.isFinite = true)
    {tolerance : Binary64} (ht : ∃ t, tolerance.place = some t ∧ 0 ≤ t) :
    (x - y).abs ≤ tolerance := by
  have hx := h.isFinite hy
  obtain ⟨a, ha, -, -⟩ := isFinite_iff_place.1 hx
  obtain ⟨b, hb, -, -⟩ := isFinite_iff_place.1 hy
  obtain ⟨t, ht, hle⟩ := ht
  have hab := (le_iff_of_place ha hb).1 h.1
  have hba := (le_iff_of_place hb ha).1 h.2
  rw [le_iff_of_place (place_abs (place_sub hx hy ha hb)) ht, show a - b = 0 by omega,
    stepsPlace_zero]
  exact hle

theorem Same.place_eq (h : x.Same y) : x.place = y.place := by
  obtain ⟨a, b, ha, hb, hab⟩ := exists_places_of_le h.1
  have hba := (le_iff_of_place hb ha).1 h.2
  rw [ha, hb, Int.le_antisymm hab hba]

/-- Equal numbers are at the same distance of a third one. -/
theorem Same.abs_sub_le_of (h : x.Same y) (hy : y.isFinite = true) (hz : z.isFinite = true)
    {tolerance : Binary64} (hle : (y - z).abs ≤ tolerance) : (x - z).abs ≤ tolerance := by
  obtain ⟨b, hb, -, -⟩ := isFinite_iff_place.1 hy
  obtain ⟨c, hc, -, -⟩ := isFinite_iff_place.1 hz
  have hx := place_abs (place_sub (h.isFinite hy) hz (h.place_eq.trans hb) hc)
  obtain ⟨p, t, hp, ht, hpt⟩ := exists_places_of_le hle
  cases (place_abs (place_sub hy hz hb hc)).symm.trans hp
  exact (le_iff_of_place hx ht).2 hpt

/-- A distance is finite only between finite numbers. -/
theorem isFinite_of_abs_sub_le {tolerance : Binary64} (ht : tolerance.isFinite = true)
    (h : (x - y).abs ≤ tolerance) : x.isFinite = true ∧ y.isFinite = true := by
  have hfinite : (x - y).isFinite = true := by
    obtain ⟨p, q, hp, hq, hle⟩ := exists_places_of_le h
    obtain ⟨q', hq', -, hlt⟩ := isFinite_iff_place.1 ht
    cases hq.symm.trans hq'
    cases hd : x - y with
    | finite s n h => rfl
    | infinite s =>
      rw [hd] at hp
      simp only [abs, place, signed, Bool.false_eq_true, if_false, Option.some.injEq] at hp
      omega
    | nan =>
      rw [hd] at hp
      cases hp
  change (Binary64.add x (Binary64.neg y)).isFinite = true at hfinite
  cases x with
  | finite s m hm =>
    cases y with
    | finite t n hn => exact ⟨rfl, rfl⟩
    | infinite t => cases hfinite
    | nan => cases hfinite
  | infinite s =>
    cases y with
    | finite t n hn => cases hfinite
    | infinite t =>
      simp only [Binary64.neg, Binary64.add] at hfinite
      split at hfinite <;> cases hfinite
    | nan => cases hfinite
  | nan => cases y <;> cases hfinite

theorem Same.symm (h : x.Same y) : y.Same x := ⟨h.2, h.1⟩

theorem Same.trans (h : x.Same y) (h' : y.Same z) : x.Same z :=
  ⟨le_trans h.1 h'.1, le_trans h'.2 h.2⟩

end Binary64

namespace Window

open Binary64

variable {u v w : Window} {tolerance : Binary64}

theorem Same.symm (h : v.Same w) : w.Same v := ⟨h.1.symm, h.2.symm⟩

theorem Same.trans (h : u.Same v) (h' : v.Same w) : u.Same w :=
  ⟨h.1.trans h'.1, h.2.trans h'.2⟩

theorem Same.covers (h : v.Same w) : v.Covers w := ⟨h.1.1, h.2.2⟩

theorem Same.wellFormed (h : v.Same w) (hw : w.WellFormed) : v.WellFormed :=
  ⟨h.1.isFinite hw.1, h.2.isFinite hw.2.1, le_trans h.1.1 (le_trans hw.2.2 h.2.2)⟩

/-- A window between two others is at least as near to the inner one as the outer one is. -/
theorem Near.of_covers (h : u.Near w tolerance) (hu : u.WellFormed) (hv : v.WellFormed)
    (hw : w.WellFormed) (hwv : w.Covers v) (hvu : v.Covers u) : u.Near v tolerance :=
  ⟨le_trans (abs_sub_le hu.1 hv.1 hw.1 (Or.inl ⟨hwv.lo, hvu.lo⟩)) h.1,
    le_trans (abs_sub_le hu.2.1 hv.2.1 hw.2.1 (Or.inr ⟨hvu.hi, hwv.hi⟩)) h.2⟩

theorem Same.near (h : v.Same w) (hw : w.WellFormed)
    (ht : ∃ t, tolerance.place = some t ∧ 0 ≤ t) : v.Near w tolerance :=
  ⟨h.1.abs_sub_le hw.1 ht, h.2.abs_sub_le hw.2.1 ht⟩

theorem Near.isFinite (h : v.Near w tolerance) (ht : tolerance.isFinite = true) :
    (v.lo.isFinite = true ∧ v.hi.isFinite = true) ∧
      w.lo.isFinite = true ∧ w.hi.isFinite = true := by
  have hlo := isFinite_of_abs_sub_le ht h.1
  have hhi := isFinite_of_abs_sub_le ht h.2
  exact ⟨⟨hlo.1, hhi.1⟩, hlo.2, hhi.2⟩

/-- A window with the same ends is just as near. -/
theorem Near.of_same (h : w.Near u tolerance) (hs : v.Same w) (ht : tolerance.isFinite = true) :
    v.Near u tolerance := by
  obtain ⟨⟨hwlo, hwhi⟩, hulo, huhi⟩ := h.isFinite ht
  exact ⟨hs.1.abs_sub_le_of hwlo hulo h.1, hs.2.abs_sub_le_of hwhi huhi h.2⟩

end Window

end LinkedCharts
