import LinkedCharts.Decimal.Shortest
import LinkedCharts.Proofs.Decimal.Digits

/-!
# The shortest decimal of a number

Whatever grid the shortest decimal comes from, it reads back. It needs a digit behind the point just
if the number is not whole: the grid of the natural numbers has a whole number itself, and grids are
tried from the coarsest to the finest; and a natural number rounds to a whole number, since the
format has no finer numbers among those that are so large.

Results:
* `shortest_readsBack`: the shortest decimal reads back.
* `scale_shortest_nonneg_iff`: it has no digit behind the point just if the number is whole.
* `positional_shortest_of_whole`: a whole number below `2 ^ 53` is written in its digits.
-/

namespace LinkedCharts

namespace Binary64

/-- A multiple of a power of two rounds to one. -/
theorem two_pow_dvd_nearest (a k : ℕ) : 2 ^ k ∣ nearest (a * 2 ^ k) 1 := by
  have hdvd : 2 ^ k ∣ a * 2 ^ k := Nat.dvd_mul_left _ _
  rcases Nat.lt_or_ge k ((a * 2 ^ k).log2 - 52) with hcoarse | hfine
  · -- the spacing is a multiple of the power, and so is all that is on the grid
    have hspacing : 2 ^ k ∣ spacing (a * 2 ^ k) := Nat.pow_dvd_pow 2 (Nat.le_of_lt hcoarse)
    unfold nearest
    rw [Nat.div_one]
    exact hspacing.mul_left _
  · -- the spacing divides the power, so the multiple is on the grid
    have hgrid : a * 2 ^ k % spacing (a * 2 ^ k) = 0 :=
      Nat.mod_eq_zero_of_dvd ((Nat.pow_dvd_pow 2 hfine).trans hdvd)
    rw [nearest_of_grid hgrid]
    exact hdvd

/-- A natural rounds to a whole number. -/
theorem stepsPerOne_dvd_nearest (a : ℕ) : stepsPerOne ∣ nearest (a * stepsPerOne) 1 := by
  unfold stepsPerOne
  exact two_pow_dvd_nearest a 1074

theorem natural_mod_spacing {a : ℕ} (h : a ≤ 2 ^ (53 : ℕ)) :
    a * stepsPerOne % spacing (a * stepsPerOne) = 0 := by
  unfold stepsPerOne
  exact mul_two_pow_mod_spacing (k := 1074) h

theorem nearest_natural {a : ℕ} (h : a ≤ 2 ^ (53 : ℕ)) :
    nearest (a * stepsPerOne) 1 = a * stepsPerOne :=
  nearest_of_grid (natural_mod_spacing h)

/-- Below `2 ^ 53` only a natural itself rounds to it. -/
theorem eq_of_nearest_mul {a k : ℕ} (hk : k < 2 ^ (53 : ℕ))
    (h : nearest (a * stepsPerOne) 1 = k * stepsPerOne) : a = k := by
  rcases Nat.lt_or_ge (2 ^ (53 : ℕ)) a with hlt | hle
  · have hmono : nearest (2 ^ (53 : ℕ) * stepsPerOne) 1 ≤ nearest (a * stepsPerOne) 1 :=
      nearest_mono Nat.one_pos Nat.one_pos
        (Nat.mul_le_mul_right _ (Nat.mul_le_mul_right _ (Nat.le_of_lt hlt)))
    rw [nearest_natural (Nat.le_refl _), h] at hmono
    exact absurd (Nat.le_of_mul_le_mul_right hmono stepsPerOne_pos) (Nat.not_le.2 hk)
  · rw [nearest_natural hle] at h
    exact Nat.eq_of_mul_eq_mul_right stepsPerOne_pos h

end Binary64

namespace Decimal

open Binary64 (stepsPerOne stepsPerOne_pos spacing)

variable {tie : Tie} {n k : ℕ} {d : Decimal}

/-! ## One grid -/

/-- What a grid has to offer reads back. -/
theorem onGrid_spec {e : ℤ} (h : onGrid tie n e = some d) : d.ReadsBack n ∧ d.exponent = e := by
  unfold onGrid at h
  dsimp only at h
  split at h
  · rename_i hdown
    split at h
    · rename_i hup
      obtain rfl := Option.some.inj h
      exact ⟨hup.1, rfl⟩
    · obtain rfl := Option.some.inj h
      exact ⟨hdown, rfl⟩
  · split at h
    · rename_i hup
      obtain rfl := Option.some.inj h
      exact ⟨hup, rfl⟩
    · cases h

/-- The grid of the naturals has every whole number of the format. -/
theorem onGrid_zero_isSome (hgrid : k * stepsPerOne % spacing (k * stepsPerOne) = 0) :
    (onGrid tie (k * stepsPerOne) 0).isSome = true := by
  have hdown : ReadsBack ⟨k, 0⟩ (k * stepsPerOne) := by
    unfold ReadsBack
    rw [nearest_natCast, Binary64.nearest_of_grid hgrid]
  unfold onGrid
  simp only [Int.neg_zero, Int.toNat_zero, Nat.pow_zero, Nat.mul_one, Nat.one_mul,
    Nat.mul_div_cancel _ stepsPerOne_pos, if_pos hdown]
  split
  · rfl
  · rfl

/-! ## All grids -/

/-- The first of the hits is not behind a hit. -/
theorem findSome?_range_of_isSome {α : Type} {f : ℕ → Option α} {i m : ℕ} (hi : i < m)
    (h : (f i).isSome = true) :
    ∃ j ≤ i, ∃ b, f j = some b ∧ (List.range m).findSome? f = some b := by
  induction m with
  | zero => exact absurd hi (Nat.not_lt_zero i)
  | succ m ih =>
    rw [List.range_succ, List.findSome?_append]
    rcases hbefore : (List.range m).findSome? f with _ | b
    · rcases Nat.lt_or_eq_of_le (Nat.le_of_lt_succ hi) with hlt | rfl
      · obtain ⟨j, -, b, -, hfound⟩ := ih hlt
        rw [hbefore] at hfound
        cases hfound
      · obtain ⟨b, hb⟩ := Option.isSome_iff_exists.1 h
        exact ⟨i, Nat.le_refl i, b, hb, by simp [hb]⟩
    · rcases Nat.lt_or_eq_of_le (Nat.le_of_lt_succ hi) with hlt | rfl
      · obtain ⟨j, hj, b', hb', hfound⟩ := ih hlt
        rw [hbefore] at hfound
        exact ⟨j, hj, b', hb', by rw [hfound]; rfl⟩
      · obtain ⟨j, hj, hb⟩ := List.exists_of_findSome?_eq_some hbefore
        exact ⟨j, Nat.le_of_lt (List.mem_range.1 hj), b, hb, rfl⟩

/-- A number of binary places is a number of decimal places. -/
theorem nearest_mul_five_pow (n k : ℕ) :
    Binary64.nearest (n * 5 ^ k * 2 ^ k) (10 ^ k) = Binary64.nearest n 1 := by
  refine Binary64.nearest_congr (Nat.pow_pos (by decide)) Nat.one_pos ?_
  rw [Nat.mul_one, Nat.mul_assoc, ← Nat.mul_pow]

theorem exact_readsBack (hgrid : n % spacing n = 0) : (exact n).ReadsBack n := by
  have hvalue : (exact n).nearest = Binary64.nearest n 1 := by
    refine Eq.trans ?_ (nearest_mul_five_pow n 1074)
    show Binary64.nearest (n * 5 ^ (1074 : ℕ) * 10 ^ (0 : ℕ) * stepsPerOne) _ = _
    rw [Nat.pow_zero, Nat.mul_one]
    rfl
  exact hvalue.trans (Binary64.nearest_of_grid hgrid)

/-- The shortest decimal is from a grid that is not finer than that of seventeen digits, or else it
    is the number itself in all its digits. -/
theorem shortest_cases (tie : Tie) (h : n ≠ 0) :
    (∃ e, topPower n - 17 ≤ e ∧ onGrid tie n e = some (shortest tie n)) ∨
      shortest tie n = exact n := by
  unfold shortest
  rw [if_neg h]
  rcases hfound : (List.range 17).findSome? fun i : ℕ => onGrid tie n (topPower n - (i + 1)) with
    _ | d
  · exact .inr rfl
  · obtain ⟨i, hi, hd⟩ := List.exists_of_findSome?_eq_some hfound
    rw [List.mem_range] at hi
    exact .inl ⟨_, by omega, hd⟩

theorem shortest_zero (tie : Tie) : shortest tie 0 = ⟨0, 0⟩ := by
  unfold shortest
  rw [if_pos rfl]

/-- The shortest decimal reads back. -/
theorem shortest_readsBack (tie : Tie) (hgrid : n % spacing n = 0) :
    (shortest tie n).ReadsBack n := by
  by_cases h : n = 0
  · rw [h]
    exact nearest_zero 0
  · rcases shortest_cases tie h with ⟨e, -, hgridHit⟩ | hexact
    · exact (onGrid_spec hgridHit).1
    · rw [hexact]
      exact exact_readsBack hgrid

theorem digits_shortest_ne_zero (tie : Tie) (h : n ≠ 0) (hgrid : n % spacing n = 0) :
    (shortest tie n).digits ≠ 0 := by
  intro hzero
  have hback : nearest ⟨(shortest tie n).digits, (shortest tie n).exponent⟩ = n :=
    shortest_readsBack tie hgrid
  rw [hzero, nearest_zero] at hback
  exact h hback.symm

/-! ## Whole numbers -/

theorem exponent_le_scale (d : Decimal) : d.exponent ≤ d.scale := by
  unfold scale
  omega

theorem topPower_of_whole (hk : 0 < k) :
    topPower (k * stepsPerOne) = ((Nat.toDigits 10 k).length : ℤ) := by
  unfold topPower
  rw [if_pos (Nat.le_mul_of_pos_left _ hk), Nat.mul_div_cancel _ stepsPerOne_pos]

/-- A whole number of at most seventeen digits is found on the grid of the naturals, if not on a
    coarser one. -/
theorem exponent_shortest_nonneg (tie : Tie) (hk : 0 < k)
    (hgrid : k * stepsPerOne % spacing (k * stepsPerOne) = 0)
    (hlength : (Nat.toDigits 10 k).length ≤ 17) :
    0 ≤ (shortest tie (k * stepsPerOne)).exponent := by
  have hpos := Nat.length_toDigits_pos (b := 10) (n := k)
  have hnatural : (onGrid tie (k * stepsPerOne) (topPower (k * stepsPerOne) -
      (((Nat.toDigits 10 k).length - 1 : ℕ) + 1))).isSome = true := by
    rw [topPower_of_whole hk, show ((Nat.toDigits 10 k).length : ℤ) -
      (((Nat.toDigits 10 k).length - 1 : ℕ) + 1) = 0 by omega]
    exact onGrid_zero_isSome hgrid
  obtain ⟨i, hi, d, hd, hfound⟩ := findSome?_range_of_isSome (m := 17)
    (f := fun i : ℕ => onGrid tie (k * stepsPerOne) (topPower (k * stepsPerOne) - (i + 1)))
    (by omega) hnatural
  have hshortest : shortest tie (k * stepsPerOne) = d := by
    unfold shortest
    rw [if_neg (Nat.ne_of_gt (Nat.mul_pos hk stepsPerOne_pos)), hfound]
    rfl
  rw [hshortest, (onGrid_spec hd).2, topPower_of_whole hk]
  omega

/-- A whole number in all its digits has zeros behind the point. -/
theorem scale_mul_five_pow (hk : 0 < k) (j : ℕ) : 0 ≤ scale ⟨k * 2 ^ j * 5 ^ j, -(j : ℤ)⟩ := by
  have hten : k * 2 ^ j * 5 ^ j = k * 10 ^ j := by rw [Nat.mul_assoc, ← Nat.mul_pow]
  rw [hten, scale_mul_pow hk, Int.add_left_neg]
  exact exponent_le_scale ⟨k, 0⟩

theorem scale_exact_nonneg (hk : 0 < k) : 0 ≤ (exact (k * stepsPerOne)).scale := by
  unfold exact stepsPerOne
  exact scale_mul_five_pow hk 1074

theorem scale_shortest_nonneg (tie : Tie) (hk : 0 < k)
    (hgrid : k * stepsPerOne % spacing (k * stepsPerOne) = 0) :
    0 ≤ (shortest tie (k * stepsPerOne)).scale := by
  rcases Nat.lt_or_ge 17 (Nat.toDigits 10 k).length with hlong | hshort
  · rcases shortest_cases tie (Nat.ne_of_gt (Nat.mul_pos hk stepsPerOne_pos)) with
      ⟨e, he, hd⟩ | hexact
    · rw [topPower_of_whole hk, ← (onGrid_spec hd).2] at he
      exact Int.le_trans (by omega) (exponent_le_scale _)
    · rw [hexact]
      exact scale_exact_nonneg hk
  · exact Int.le_trans (exponent_shortest_nonneg tie hk hgrid hshort) (exponent_le_scale _)

/-- The shortest decimal has no digit behind the point just if the number is whole. -/
theorem scale_shortest_nonneg_iff (tie : Tie) (hgrid : n % spacing n = 0) :
    0 ≤ (shortest tie n).scale ↔ n % stepsPerOne = 0 := by
  by_cases hn : n = 0
  · rw [hn, shortest_zero]
    exact iff_of_true (by decide) (Nat.zero_mod _)
  constructor
  · intro hscale
    have hback : (shortest tie n).nearest = n := shortest_readsBack tie hgrid
    obtain ⟨a, -, hnatural, -⟩ := exists_natural (digits_shortest_ne_zero tie hn hgrid) hscale
    rw [hnatural, nearest_natCast] at hback
    rw [← hback]
    exact Nat.mod_eq_zero_of_dvd (Binary64.stepsPerOne_dvd_nearest a)
  · intro hwhole
    obtain ⟨k, hk⟩ := Nat.dvd_of_mod_eq_zero hwhole
    rw [Nat.mul_comm] at hk
    rw [hk] at hgrid hn ⊢
    exact scale_shortest_nonneg tie (Nat.pos_of_ne_zero (left_ne_zero_of_mul hn)) hgrid

/-- A whole number below `2 ^ 53` is written in its digits. -/
theorem positional_shortest_of_whole (tie : Tie) (hk : k < 2 ^ (53 : ℕ)) :
    (shortest tie (k * stepsPerOne)).positional = Nat.toDigits 10 k := by
  rcases Nat.eq_zero_or_pos k with rfl | hpos
  · rw [Nat.zero_mul, shortest_zero]
    rfl
  have hgrid := Binary64.natural_mod_spacing (Nat.le_of_lt hk)
  have hback : (shortest tie (k * stepsPerOne)).nearest = k * stepsPerOne :=
    shortest_readsBack tie hgrid
  have hdigits := digits_shortest_ne_zero tie
    (Nat.ne_of_gt (Nat.mul_pos hpos stepsPerOne_pos)) hgrid
  obtain ⟨a, ha, hnatural, htext⟩ :=
    exists_natural hdigits (scale_shortest_nonneg tie hpos hgrid)
  rw [hnatural, nearest_natCast] at hback
  rw [htext, Binary64.eq_of_nearest_mul hk hback, positional_natCast (Nat.ne_of_gt hpos)]

end Decimal

end LinkedCharts
