import LinkedCharts.Proofs.Binary64.Order
import Mathlib.Tactic.Ring

/-!
# Rounding keeps the order

A larger quotient never rounds to a smaller magnitude, and a magnitude that the format holds rounds
to itself. Sums of finite numbers are rounded sums of steps, so both carry over to sums.

Results:
* `nearest_mono`: rounding of quotients is monotone.
* `nearest_of_grid`: a magnitude on the grid is its own rounding.
* `ofSteps_mono`: rounding of counts of steps is monotone.
* `place_add`, `place_sub`: the place of a sum is that of the rounded sum of places.
* `place_half`, `nearest_nearest_two_le`: half a number, and half a rounded distance.
-/

namespace LinkedCharts.Binary64

/-! ## Quotients -/

theorem le_divNearest (num den : Nat) : num / den ≤ divNearest num den := by
  unfold divNearest
  dsimp only
  split <;> omega

/-- A quotient that is rounded up is at least halfway to the next natural, and only an odd one is
    rounded up from halfway. -/
theorem divNearest_eq_succ_iff (num den : Nat) :
    divNearest num den = num / den + 1 ↔
      den ≤ 2 * (num % den) ∧ (2 * (num % den) = den → num / den % 2 = 1) := by
  unfold divNearest
  dsimp only
  split <;> omega

theorem divNearest_mono {a b c d : Nat} (hb : 0 < b) (hd : 0 < d) (h : a * d ≤ c * b) :
    divNearest a b ≤ divNearest c d := by
  have ha := Nat.div_add_mod a b
  have hc := Nat.div_add_mod c d
  have hq : a / b ≤ c / d := by
    rw [Nat.le_div_iff_mul_le hd]
    apply Nat.le_of_mul_le_mul_right _ hb
    calc a / b * d * b = b * (a / b) * d := by ring
      _ ≤ a * d := Nat.mul_le_mul_right d (by omega)
      _ ≤ c * b := h
  rcases Nat.lt_or_eq_of_le hq with hlt | heq
  · have h1 := divNearest_le a b
    have h2 := le_divNearest c d
    omega
  -- equal quotients: what rounds the first one up rounds the second one up
  · have hr : a % b * d ≤ c % d * b := by
      have h1 : (b * (a / b) + a % b) * d ≤ (d * (c / d) + c % d) * b := by rw [ha, hc]; exact h
      have h2 : b * (a / b) * d = d * (c / d) * b := by rw [heq]; ring
      rw [Nat.add_mul, Nat.add_mul, h2] at h1
      omega
    by_cases hup : divNearest a b = a / b + 1
    · obtain ⟨hhalf, htie⟩ := (divNearest_eq_succ_iff a b).1 hup
      have hup' : divNearest c d = c / d + 1 := by
        rw [divNearest_eq_succ_iff, ← heq]
        constructor
        · apply Nat.le_of_mul_le_mul_right _ hb
          calc d * b ≤ 2 * (a % b) * d := by rw [Nat.mul_comm]; exact Nat.mul_le_mul_right d hhalf
            _ = 2 * (a % b * d) := by ring
            _ ≤ 2 * (c % d * b) := Nat.mul_le_mul_left 2 hr
            _ = 2 * (c % d) * b := by ring
        · intro htie'
          apply htie
          apply Nat.le_antisymm _ hhalf
          apply Nat.le_of_mul_le_mul_right _ hd
          calc 2 * (a % b) * d = 2 * (a % b * d) := by ring
            _ ≤ 2 * (c % d * b) := Nat.mul_le_mul_left 2 hr
            _ = 2 * (c % d) * b := by ring
            _ = b * d := by rw [htie']; ring
      omega
    · have h1 := divNearest_le a b
      have h2 := le_divNearest c d
      omega

/-! ## The grid -/

theorem spacing_pos (n : Nat) : 0 < spacing n := Nat.two_pow_pos _

theorem stepsPerOne_pos : 0 < stepsPerOne := by decide +kernel

theorem spacing_dvd_two_pow {n k : Nat} (h : n.log2 ≤ k) : spacing n ∣ 2 ^ k :=
  Nat.pow_dvd_pow 2 (by omega)

/-- What lies below a power of two rounds to at most that power. -/
theorem nearest_le_two_pow {num den k : Nat} (h : num / den < 2 ^ k) :
    nearest num den ≤ 2 ^ k := by
  have hlog : (num / den).log2 ≤ k := by
    rcases Nat.eq_zero_or_pos (num / den) with h0 | hpos
    · simp [h0]
    · have := (Nat.log2_lt (by omega)).2 h
      omega
  obtain ⟨m, hm⟩ := spacing_dvd_two_pow hlog
  have hq : num / (den * spacing (num / den)) < m := by
    rw [← Nat.div_div_eq_div_mul]
    apply Nat.div_lt_of_lt_mul
    rwa [← hm]
  have hle := divNearest_le num (den * spacing (num / den))
  calc nearest num den = divNearest num (den * spacing (num / den)) * spacing (num / den) := rfl
    _ ≤ m * spacing (num / den) := Nat.mul_le_mul_right _ (by omega)
    _ = 2 ^ k := by rw [hm]; ring

/-- What is not below a power of two does not round below it. -/
theorem two_pow_le_nearest {num den k : Nat} (h : 2 ^ k ≤ num / den)
    (hlog : k = (num / den).log2) : 2 ^ k ≤ nearest num den := by
  obtain ⟨m, hm⟩ := spacing_dvd_two_pow (n := num / den) (k := k) (by omega)
  have hq : m ≤ num / (den * spacing (num / den)) := by
    rw [← Nat.div_div_eq_div_mul, Nat.le_div_iff_mul_le (spacing_pos _), Nat.mul_comm, ← hm]
    exact h
  have hle := le_divNearest num (den * spacing (num / den))
  calc 2 ^ k = m * spacing (num / den) := by rw [hm]; ring
    _ ≤ divNearest num (den * spacing (num / den)) * spacing (num / den) :=
      Nat.mul_le_mul_right _ (by omega)
    _ = nearest num den := rfl

/-- Between naturals of different binary lengths there is a power of two. -/
theorem two_pow_log2_between {p q : Nat} (h : p ≤ q) (hlog : p.log2 ≠ q.log2) :
    p < 2 ^ q.log2 ∧ 2 ^ q.log2 ≤ q := by
  have hq : q ≠ 0 := by
    rintro rfl
    exact hlog (by rw [Nat.le_zero.1 h])
  refine ⟨?_, Nat.log2_self_le hq⟩
  by_contra hge
  have hp : p ≠ 0 := by
    rintro rfl
    exact hge (Nat.two_pow_pos _)
  have h1 := (Nat.le_log2 hp).2 (Nat.le_of_not_lt hge)
  have h2 := (Nat.log2_lt hp).2 (Nat.lt_of_le_of_lt h Nat.lt_log2_self)
  omega

/-- A larger quotient never rounds to a smaller magnitude. -/
theorem nearest_mono {a b c d : Nat} (hb : 0 < b) (hd : 0 < d) (h : a * d ≤ c * b) :
    nearest a b ≤ nearest c d := by
  have hq : a / b ≤ c / d := by
    rw [Nat.le_div_iff_mul_le hd]
    apply Nat.le_of_mul_le_mul_right _ hb
    calc a / b * d * b = a / b * b * d := by ring
      _ ≤ a * d := Nat.mul_le_mul_right d (Nat.div_mul_le_self a b)
      _ ≤ c * b := h
  by_cases hs : spacing (a / b) = spacing (c / d)
  · unfold nearest
    dsimp only
    rw [hs]
    apply Nat.mul_le_mul_right
    apply divNearest_mono (Nat.mul_pos hb (spacing_pos _)) (Nat.mul_pos hd (spacing_pos _))
    calc a * (d * spacing (c / d)) = a * d * spacing (c / d) := by ring
      _ ≤ c * b * spacing (c / d) := Nat.mul_le_mul_right _ h
      _ = c * (b * spacing (c / d)) := by ring
  -- different spacings: a power of two lies between the quotients
  · have hlog : (a / b).log2 ≠ (c / d).log2 := fun e => hs (by simp only [spacing, e])
    obtain ⟨hlt, hle⟩ := two_pow_log2_between hq hlog
    exact Nat.le_trans (nearest_le_two_pow hlt) (two_pow_le_nearest hle rfl)

/-- Equal quotients round to the same magnitude. -/
theorem nearest_congr {a b c d : Nat} (hb : 0 < b) (hd : 0 < d) (h : a * d = c * b) :
    nearest a b = nearest c d :=
  Nat.le_antisymm (nearest_mono hb hd (Nat.le_of_eq h)) (nearest_mono hd hb (Nat.le_of_eq h.symm))

theorem nearest_of_grid {n : Nat} (h : n % spacing n = 0) : nearest n 1 = n := by
  have hdvd := Nat.dvd_of_mod_eq_zero h
  unfold nearest divNearest
  dsimp only
  rw [Nat.div_one, Nat.one_mul, h, if_pos (Or.inl (by have := spacing_pos n; omega))]
  exact Nat.div_mul_cancel hdvd

/-! ## Counts of steps -/

/-- The place of a rounded quotient: nothing stands beyond the limit. -/
theorem place_round (s : Bool) (num den : Nat) :
    (round s num den).place = some (signed s (Min.min (nearest num den) limit)) := by
  unfold round
  split
  · rename_i h
    rw [place, Nat.min_eq_left (Nat.le_of_lt h)]
  · rename_i h
    rw [place, Nat.min_eq_right (Nat.le_of_not_lt h)]

/-- The place of a rounded count of steps. -/
def stepsPlace (i : Int) : Int := signed (i < 0) (Min.min (nearest i.natAbs 1) limit)

theorem place_ofSteps (i : Int) : (ofSteps i).place = some (stepsPlace i) := by
  rw [ofSteps, place_round]
  rfl

theorem stepsPlace_mono {i j : Int} (h : i ≤ j) : stepsPlace i ≤ stepsPlace j := by
  unfold stepsPlace signed
  rcases Int.lt_or_le i 0 with hi | hi
  · rcases Int.lt_or_le j 0 with hj | hj
    -- both negative: the magnitudes are in the other order
    · have := nearest_mono (a := j.natAbs) (c := i.natAbs) Nat.one_pos Nat.one_pos (by omega)
      simp only [hi, hj, decide_true, if_true]
      omega
    · simp only [hi, Int.not_lt.2 hj, decide_true, decide_false, if_true]
      simp only [Bool.false_eq_true, if_false]
      omega
  · have hj : 0 ≤ j := Int.le_trans hi h
    have := nearest_mono (a := i.natAbs) (c := j.natAbs) Nat.one_pos Nat.one_pos (by omega)
    simp only [Int.not_lt.2 hi, Int.not_lt.2 hj, decide_false, Bool.false_eq_true, if_false]
    omega

theorem ofSteps_mono {i j : Int} (h : i ≤ j) : ofSteps i ≤ ofSteps j := by
  rw [le_iff_of_place (place_ofSteps i) (place_ofSteps j)]
  exact stepsPlace_mono h

/-- A count of steps that the format holds is its own rounding. -/
theorem stepsPlace_signed {n : Nat} (h : Fits n) (s : Bool) :
    stepsPlace (signed s n) = signed s n := by
  have habs := natAbs_signed s n
  have hlt := h.1
  unfold stepsPlace
  rw [habs, nearest_of_grid h.2, Nat.min_eq_left (Nat.le_of_lt hlt)]
  cases s
  · have : ¬ signed false n < 0 := by simp [signed]
    simp only [this, decide_false]
  · rcases Nat.eq_zero_or_pos n with rfl | hn
    · simp [signed]
    · have : signed true n < 0 := by simp only [signed, if_true]; omega
      simp only [this, decide_true]

theorem stepsPlace_of_place {x : Binary64} {a : Int} (hf : x.isFinite = true)
    (hx : x.place = some a) : stepsPlace a = a := by
  cases x with
  | finite s n h =>
    cases hx
    exact stepsPlace_signed h s
  | infinite s => cases hf
  | nan => cases hf

theorem stepsPlace_zero : stepsPlace 0 = 0 := stepsPlace_signed fits_zero false

theorem place_zero : (0 : Binary64).place = some 0 := by decide +kernel

/-! ## Sums and halves -/

theorem place_neg {x : Binary64} {a : Int} (hx : x.place = some a) : (-x).place = some (-a) := by
  show (Binary64.neg x).place = _
  cases x with
  | finite s n h =>
    cases hx
    exact congrArg some (signed_not s n)
  | infinite s =>
    cases hx
    exact congrArg some (signed_not s limit)
  | nan => cases hx

theorem isFinite_neg (x : Binary64) : (-x).isFinite = x.isFinite := by
  show (Binary64.neg x).isFinite = _
  cases x <;> rfl

/-- A sum of finite numbers is the rounded sum of their places. -/
theorem place_add {x y : Binary64} {a b : Int} (hx : x.isFinite = true) (hy : y.isFinite = true)
    (ha : x.place = some a) (hb : y.place = some b) :
    (x + y).place = some (stepsPlace (a + b)) := by
  show (Binary64.add x y).place = _
  cases x with
  | finite s m hm =>
    cases y with
    | finite t n hn =>
      cases ha
      cases hb
      simp only [Binary64.add]
      split
      · rename_i h0
        have hzero : stepsPlace (signed false 0) = signed false 0 := stepsPlace_signed fits_zero _
        rw [h0, show (0 : Int) = signed false 0 from rfl, hzero]
        cases s <;> cases t <;> rfl
      · exact place_ofSteps _
    | infinite t => cases hy
    | nan => cases hy
  | infinite s => cases hx
  | nan => cases hx

theorem place_sub {x y : Binary64} {a b : Int} (hx : x.isFinite = true) (hy : y.isFinite = true)
    (ha : x.place = some a) (hb : y.place = some b) :
    (x - y).place = some (stepsPlace (a - b)) := by
  show (x + -y).place = _
  rw [place_add hx ((isFinite_neg y).trans hy) ha (place_neg hb), Int.sub_eq_add_neg]

/-- Half of a magnitude that the format holds is not larger. -/
theorem nearest_two_le {n : Nat} (h : n % spacing n = 0) : nearest n 2 ≤ n := by
  calc nearest n 2 ≤ nearest n 1 := nearest_mono (by decide) (by decide) (by omega)
    _ = n := nearest_of_grid h

/-- Half of a finite number that is not negative lies between zero and the number. -/
theorem place_half {x : Binary64} {d : Int} (hf : x.isFinite = true) (hx : x.place = some d)
    (hd : 0 ≤ d) : x.half.isFinite = true ∧ x.half.place = some (nearest d.toNat 2 : Int) := by
  cases x with
  | finite s n h =>
    cases hx
    have hle := nearest_two_le h.2
    have hlt := h.1
    have hn : (signed s n).toNat = n := by
      cases s
      · simp [signed]
      · simp only [signed, if_true] at hd ⊢
        omega
    have hround : (round s n 2).place = some (nearest n 2 : Int) := by
      rw [place_round, Nat.min_eq_left (by omega)]
      cases s
      · rfl
      · have h0 : nearest n 2 = 0 := by simp only [signed, if_true] at hd; omega
        rw [h0]
        rfl
    rw [hn]
    refine ⟨?_, hround⟩
    rw [isFinite_iff_place]
    exact ⟨_, hround, by omega, by omega⟩
  | infinite s => cases hf
  | nan => cases hf

/-- Half of the rounded distance between two numbers is not larger than the distance itself, however
    it was rounded. -/
theorem nearest_nearest_two_le (d : Nat) : nearest (nearest d 1) 2 ≤ d := by
  rcases Nat.eq_zero_or_pos d with rfl | hpos
  · decide
  -- the number on the grid just below the distance
  have hgrid : d / spacing d * spacing d % spacing (d / spacing d * spacing d) = 0 :=
    mul_two_pow_mod_spacing (Nat.le_of_lt (div_spacing_lt d))
  have hself : d / spacing d * spacing d ≤ d := Nat.div_mul_le_self d _
  have hone : 1 ≤ d / spacing d := by
    rw [Nat.le_div_iff_mul_le (spacing_pos d), Nat.one_mul]
    exact Nat.le_trans (Nat.pow_le_pow_right (by decide) (by omega)) (Nat.log2_self_le (by omega))
  have hstep : nearest d 1 ≤ d / spacing d * spacing d + spacing d := by
    have := divNearest_le d (1 * spacing d)
    calc nearest d 1 = divNearest d (1 * spacing d) * spacing d := by simp [nearest]
      _ ≤ (d / (1 * spacing d) + 1) * spacing d := Nat.mul_le_mul_right _ this
      _ = d / spacing d * spacing d + spacing d := by rw [Nat.one_mul]; ring
  have hdouble : spacing d ≤ d / spacing d * spacing d := Nat.le_mul_of_pos_left _ hone
  calc nearest (nearest d 1) 2 ≤ nearest (d / spacing d * spacing d) 1 :=
        nearest_mono (by decide) (by decide) (by omega)
    _ = d / spacing d * spacing d := nearest_of_grid hgrid
    _ ≤ d := hself

end LinkedCharts.Binary64
