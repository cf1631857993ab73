import LinkedCharts.Binary64.Arithmetic

/-!
# The order of floating-point numbers

The order compares places on the line of steps. It is total on the numbers that have a place, that
is on all but NaN, and a finite number stands strictly between the infinities.

Results:
* `le_iff_of_place`, `lt_iff_of_place`: a comparison is one of integers.
* `le_trans`, `lt_of_lt_of_le`, `lt_of_le_of_lt`, `not_le_iff_lt`: the order is transitive, and
  total without NaN.
* `min_le_left`, `min_le_right`, `le_max_left`, `le_max_right`: the smaller and the larger of two
  numbers.
* `infinite_min`, `infinite_max`: a search for the least or the greatest number starts at an
  infinity.
* `le_of_rank_le`, `rank_le_of_lt`: the total order refines the order of places.
-/

namespace LinkedCharts.Binary64

/-! ## Places -/

theorem place_eq_none_iff {x : Binary64} : x.place = none ↔ x = nan := by
  cases x <;> simp [place]

theorem exists_place {x : Binary64} (h : x ≠ nan) : ∃ a, x.place = some a :=
  Option.ne_none_iff_exists'.1 (mt place_eq_none_iff.1 h)

theorem ne_nan_of_place {x : Binary64} {a : Int} (h : x.place = some a) : x ≠ nan := by
  rintro rfl
  cases h

theorem natAbs_signed (s : Bool) (n : Nat) : (signed s n).natAbs = n := by
  cases s <;> simp [signed]

theorem signed_not (s : Bool) (n : Nat) : signed (!s) n = -signed s n := by
  cases s with
  | false => rfl
  | true => exact (Int.neg_neg (n : Int)).symm

theorem signed_le_limit {n : Nat} (h : n ≤ limit) (s : Bool) :
    -(limit : Int) ≤ signed s n ∧ signed s n ≤ limit := by
  have := natAbs_signed s n
  omega

theorem limit_pos : 0 < limit := by decide +kernel

/-- The finite numbers stand strictly inside the limit. -/
theorem isFinite_iff_place {x : Binary64} :
    x.isFinite = true ↔ ∃ a, x.place = some a ∧ -(limit : Int) < a ∧ a < limit := by
  have hlimit := limit_pos
  cases x with
  | finite s n h =>
    have hn := h.1
    have habs := natAbs_signed s n
    simp only [isFinite, place, true_iff]
    exact ⟨_, rfl, by omega, by omega⟩
  | infinite s =>
    have habs := natAbs_signed s limit
    constructor
    · rintro ⟨⟩
    · rintro ⟨a, ha, hlow, hhigh⟩
      have hsigned : signed s limit = a := Option.some.inj ha
      omega
  | nan =>
    constructor
    · rintro ⟨⟩
    · rintro ⟨a, ⟨⟩, -⟩

theorem ne_nan_of_isFinite {x : Binary64} (h : x.isFinite = true) : x ≠ nan := by
  rintro rfl
  cases h

/-! ## Comparisons -/

section Comparison

variable {x y z : Binary64} {a b : Int}

theorem le_iff_of_place (hx : x.place = some a) (hy : y.place = some b) : x ≤ y ↔ a ≤ b := by
  show Binary64.le x y ↔ _
  simp only [Binary64.le, hx, hy]

theorem lt_iff_of_place (hx : x.place = some a) (hy : y.place = some b) : x < y ↔ a < b := by
  show Binary64.lt x y ↔ _
  simp only [Binary64.lt, hx, hy]

theorem exists_places_of_le (h : x ≤ y) :
    ∃ a b, x.place = some a ∧ y.place = some b ∧ a ≤ b := by
  change Binary64.le x y at h
  unfold Binary64.le at h
  split at h
  · exact ⟨_, _, by assumption, by assumption, h⟩
  · exact h.elim

/-- Only numbers compare. -/
theorem ne_nan_of_le (h : x ≤ y) : x ≠ nan ∧ y ≠ nan := by
  obtain ⟨a, b, ha, hb, -⟩ := exists_places_of_le h
  exact ⟨ne_nan_of_place ha, ne_nan_of_place hb⟩

theorem exists_places_of_lt (h : x < y) :
    ∃ a b, x.place = some a ∧ y.place = some b ∧ a < b := by
  change Binary64.lt x y at h
  unfold Binary64.lt at h
  split at h
  · exact ⟨_, _, by assumption, by assumption, h⟩
  · exact h.elim

theorem le_refl (h : x ≠ nan) : x ≤ x := by
  obtain ⟨a, ha⟩ := exists_place h
  exact (le_iff_of_place ha ha).2 (Int.le_refl a)

theorem le_trans (hxy : x ≤ y) (hyz : y ≤ z) : x ≤ z := by
  obtain ⟨a, b, ha, hb, hab⟩ := exists_places_of_le hxy
  obtain ⟨b', c, hb', hc, hbc⟩ := exists_places_of_le hyz
  cases hb.symm.trans hb'
  exact (le_iff_of_place ha hc).2 (Int.le_trans hab hbc)

theorem lt_of_lt_of_le (hxy : x < y) (hyz : y ≤ z) : x < z := by
  obtain ⟨a, b, ha, hb, hab⟩ := exists_places_of_lt hxy
  obtain ⟨b', c, hb', hc, hbc⟩ := exists_places_of_le hyz
  cases hb.symm.trans hb'
  exact (lt_iff_of_place ha hc).2 (Int.lt_of_lt_of_le hab hbc)

theorem lt_of_le_of_lt (hxy : x ≤ y) (hyz : y < z) : x < z := by
  obtain ⟨a, b, ha, hb, hab⟩ := exists_places_of_le hxy
  obtain ⟨b', c, hb', hc, hbc⟩ := exists_places_of_lt hyz
  cases hb.symm.trans hb'
  exact (lt_iff_of_place ha hc).2 (Int.lt_of_le_of_lt hab hbc)

theorem le_of_lt (h : x < y) : x ≤ y := by
  obtain ⟨a, b, ha, hb, hab⟩ := exists_places_of_lt h
  exact (le_iff_of_place ha hb).2 (Int.le_of_lt hab)

theorem not_le_of_lt (h : x < y) : ¬ y ≤ x := by
  obtain ⟨a, b, ha, hb, hab⟩ := exists_places_of_lt h
  rw [le_iff_of_place hb ha]
  omega

theorem not_le_iff_lt (hx : x ≠ nan) (hy : y ≠ nan) : ¬ x ≤ y ↔ y < x := by
  obtain ⟨a, ha⟩ := exists_place hx
  obtain ⟨b, hb⟩ := exists_place hy
  rw [le_iff_of_place ha hb, lt_iff_of_place hb ha]
  omega

theorem not_lt_iff_le (hx : x ≠ nan) (hy : y ≠ nan) : ¬ x < y ↔ y ≤ x := by
  obtain ⟨a, ha⟩ := exists_place hx
  obtain ⟨b, hb⟩ := exists_place hy
  rw [lt_iff_of_place ha hb, le_iff_of_place hb ha]
  omega

end Comparison

/-! ## The infinities -/

/-- What lies between finite numbers is finite. -/
theorem isFinite_of_between {x lo hi : Binary64} (hlo : lo.isFinite = true)
    (hhi : hi.isFinite = true) (hlow : lo ≤ x) (hhigh : x ≤ hi) : x.isFinite = true := by
  obtain ⟨a, ha, hla, -⟩ := isFinite_iff_place.1 hlo
  obtain ⟨b, hb, -, hlb⟩ := isFinite_iff_place.1 hhi
  obtain ⟨k, hk⟩ := exists_place (ne_nan_of_le hhigh).1
  have hak := (le_iff_of_place ha hk).1 hlow
  have hkb := (le_iff_of_place hk hb).1 hhigh
  exact isFinite_iff_place.2 ⟨k, hk, by omega, by omega⟩

/-- Nothing stands beyond the infinities. -/
theorem place_bounds {x : Binary64} {a : Int} (hx : x.place = some a) :
    -(limit : Int) ≤ a ∧ a ≤ limit := by
  cases x with
  | finite s n h => cases hx; exact signed_le_limit (Nat.le_of_lt h.1) s
  | infinite s => cases hx; exact signed_le_limit (Nat.le_refl _) s
  | nan => cases hx

theorem le_infinite {x : Binary64} (h : x ≠ nan) : x ≤ infinite false := by
  obtain ⟨a, ha⟩ := exists_place h
  rw [le_iff_of_place ha (show (infinite false).place = some (limit : Int) from rfl)]
  exact (place_bounds ha).2

theorem infinite_le {x : Binary64} (h : x ≠ nan) : infinite true ≤ x := by
  obtain ⟨a, ha⟩ := exists_place h
  rw [le_iff_of_place (show (infinite true).place = some (-(limit : Int)) from rfl) ha]
  exact (place_bounds ha).1

theorem infinite_lt : infinite true < infinite false := by
  have hpos := limit_pos
  rw [lt_iff_of_place (show (infinite true).place = some (-(limit : Int)) from rfl)
    (show (infinite false).place = some (limit : Int) from rfl)]
  omega

theorem ne_infinite_of_lt_limit {x : Binary64} {a : Int} (hx : x.place = some a)
    (h : a < limit) : x ≠ infinite false := by
  rintro rfl
  simp only [place, signed, Bool.false_eq_true, if_false, Option.some.injEq] at hx
  omega

theorem ne_infinite_of_limit_lt {x : Binary64} {a : Int} (hx : x.place = some a)
    (h : -(limit : Int) < a) : x ≠ infinite true := by
  rintro rfl
  simp only [place, signed, if_true, Option.some.injEq] at hx
  omega

/-! ## The smaller and the larger of two -/

theorem min_eq_or (x y : Binary64) : x.min y = x ∨ x.min y = y := by
  unfold Binary64.min
  split
  · exact Or.inl rfl
  · split
    · exact Or.inl rfl
    · exact Or.inr rfl

theorem max_eq_or (x y : Binary64) : x.max y = x ∨ x.max y = y := by
  unfold Binary64.max
  split
  · exact Or.inl rfl
  · split
    · exact Or.inl rfl
    · exact Or.inr rfl

theorem min_le_left {x y : Binary64} (hx : x ≠ nan) (hy : y ≠ nan) : x.min y ≤ x := by
  unfold Binary64.min
  rw [if_neg hy]
  split
  · exact le_refl hx
  · rename_i h
    exact (not_lt_iff_le hx hy).1 h

theorem min_le_right {x y : Binary64} (hy : y ≠ nan) : x.min y ≤ y := by
  unfold Binary64.min
  rw [if_neg hy]
  split
  · rename_i h
    exact le_of_lt h
  · exact le_refl hy

theorem le_max_right {x y : Binary64} (hy : y ≠ nan) : y ≤ x.max y := by
  unfold Binary64.max
  rw [if_neg hy]
  split
  · rename_i h
    exact le_of_lt h
  · exact le_refl hy

theorem le_max_left {x y : Binary64} (hx : x ≠ nan) (hy : y ≠ nan) : x ≤ x.max y := by
  unfold Binary64.max
  rw [if_neg hy]
  split
  · exact le_refl hx
  · rename_i h
    exact (not_lt_iff_le hy hx).1 h

theorem infinite_min {x : Binary64} (hx : x.isFinite = true) : (infinite false).min x = x := by
  unfold Binary64.min
  rw [if_neg (ne_nan_of_isFinite hx), if_neg]
  exact fun hlt => not_le_of_lt hlt (le_infinite (ne_nan_of_isFinite hx))

theorem infinite_max {x : Binary64} (hx : x.isFinite = true) : (infinite true).max x = x := by
  unfold Binary64.max
  rw [if_neg (ne_nan_of_isFinite hx), if_neg]
  exact fun hlt => not_le_of_lt hlt (infinite_le (ne_nan_of_isFinite hx))

/-! ## The total order -/

/-- Among finite numbers the total order refines the order of places. -/
theorem le_of_rank_le {x y : Binary64} (hx : x.isFinite = true) (hy : y.isFinite = true)
    (h : x.rank ≤ y.rank) : x ≤ y := by
  cases x with
  | finite s m hm =>
    cases y with
    | finite t n hn =>
      rw [le_iff_of_place rfl rfl]
      cases s <;> cases t <;> simp [rank, signed] at h ⊢ <;> omega
    | infinite t => cases hy
    | nan => cases hy
  | infinite s => cases hx
  | nan => cases hx

/-- The sign tells numbers of one place apart by one at most. -/
theorem signed_bounds (s : Bool) (n : Nat) :
    signed s n - 1 ≤ (if s then -(n : Int) - 1 else n) ∧
      (if s then -(n : Int) - 1 else n) ≤ signed s n := by
  cases s with
  | false => exact ⟨Int.sub_le_self _ (by decide), Int.le_refl _⟩
  | true => exact ⟨Int.le_refl _, Int.sub_le_self _ (by decide)⟩

/-- The rank is the place, or one below it for what has a minus sign. -/
theorem rank_bounds {x : Binary64} {a : Int} (hx : x.place = some a) :
    a - 1 ≤ x.rank ∧ x.rank ≤ a := by
  cases x with
  | finite s n h => cases hx; exact signed_bounds s n
  | infinite s => cases hx; exact signed_bounds s limit
  | nan => cases hx

theorem rank_le_of_lt {x y : Binary64} (h : x < y) : x.rank ≤ y.rank := by
  obtain ⟨a, b, ha, hb, hab⟩ := exists_places_of_lt h
  have hx := (rank_bounds ha).2
  have hy := (rank_bounds hb).1
  omega

/-! ## Numeric equality -/

theorem Same.refl {x : Binary64} (h : x ≠ nan) : x.Same x := ⟨le_refl h, le_refl h⟩

/-- Numbers in the same place are equal. -/
theorem Same.of_place {x y : Binary64} {a : Int} (hx : x.place = some a) (hy : y.place = some a) :
    x.Same y :=
  ⟨(le_iff_of_place hx hy).2 (Int.le_refl a), (le_iff_of_place hy hx).2 (Int.le_refl a)⟩

end LinkedCharts.Binary64
