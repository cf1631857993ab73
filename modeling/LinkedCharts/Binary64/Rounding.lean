import LinkedCharts.Binary64.Basic

/-!
# Rounding to the nearest number

A quotient of naturals, read as a number of steps, is rounded to the nearest magnitude that the
format holds; of two that are equally near, the one whose significand is even is taken. What rounds
to the limit or beyond becomes an infinity.

Results:
* `divNearest`: a quotient rounded to the nearest natural, ties to even.
* `nearest_fits`: a rounded quotient below the limit is a magnitude of the format.
* `round`: the number nearest to a quotient of steps.
-/

namespace LinkedCharts.Binary64

/-- `num / den` rounded to the nearest natural, a tie to the even one. -/
def divNearest (num den : Nat) : Nat :=
  let q := num / den
  let r := num % den
  if 2 * r < den ∨ (2 * r = den ∧ q % 2 = 0) then q else q + 1

/-- The number of steps nearest to `num / den` on the grid of the format, which has no upper end
    here. -/
def nearest (num den : Nat) : Nat :=
  let s := spacing (num / den)
  divNearest num (den * s) * s

theorem divNearest_le (num den : Nat) : divNearest num den ≤ num / den + 1 := by
  unfold divNearest; dsimp only; split <;> omega

/-- A multiple of a power of two by at most `2 ^ 53` lies on the grid of its own spacing. -/
theorem mul_two_pow_mod_spacing {q k : Nat} (hq : q ≤ 2 ^ (53 : Nat)) :
    q * 2 ^ k % spacing (q * 2 ^ k) = 0 := by
  rcases Nat.eq_zero_or_pos q with rfl | hpos
  · simp
  have hne : q * 2 ^ k ≠ 0 := Nat.ne_of_gt (Nat.mul_pos hpos (Nat.two_pow_pos k))
  rcases Nat.lt_or_eq_of_le hq with hlt | rfl
  · have hlog : (q * 2 ^ k).log2 < 53 + k := by
      rw [Nat.log2_lt hne, Nat.pow_add]
      exact Nat.mul_lt_mul_of_pos_right hlt (Nat.two_pow_pos k)
    have hdvd : spacing (q * 2 ^ k) ∣ 2 ^ k := Nat.pow_dvd_pow 2 (by omega)
    exact Nat.mod_eq_zero_of_dvd (Nat.dvd_trans hdvd (Nat.dvd_mul_left _ _))
  · rw [← Nat.pow_add]
    have hlog : (2 ^ (53 + k)).log2 = 53 + k := Nat.log2_two_pow
    unfold spacing
    rw [hlog]
    exact Nat.mod_eq_zero_of_dvd (Nat.pow_dvd_pow 2 (by omega))

/-- A number is less than `2 ^ 53` of its own spacings. -/
theorem div_spacing_lt (n : Nat) : n / spacing n < 2 ^ (53 : Nat) := by
  rcases Nat.eq_zero_or_pos n with rfl | hpos
  · decide
  have hlt : n < 2 ^ (n.log2 + 1) := Nat.lt_log2_self
  have hpow : 2 ^ (n.log2 + 1) ≤ 2 ^ (53 : Nat) * spacing n := by
    unfold spacing
    rw [← Nat.pow_add]
    exact Nat.pow_le_pow_right (by decide) (by omega)
  exact Nat.div_lt_of_lt_mul (Nat.mul_comm _ _ ▸ Nat.lt_of_lt_of_le hlt hpow)

theorem nearest_mod_spacing (num den : Nat) : nearest num den % spacing (nearest num den) = 0 := by
  apply mul_two_pow_mod_spacing
  have h := divNearest_le num (den * spacing (num / den))
  rw [← Nat.div_div_eq_div_mul] at h
  have := div_spacing_lt (num / den)
  omega

/-- A rounded quotient below the limit is a magnitude of the format. -/
theorem nearest_fits {num den : Nat} (h : nearest num den < limit) : Fits (nearest num den) :=
  ⟨h, nearest_mod_spacing num den⟩

/-- The number of the given sign whose magnitude is nearest to `num / den` steps. -/
def round (negative : Bool) (num den : Nat) : Binary64 :=
  if h : nearest num den < limit then .finite negative (nearest num den) (nearest_fits h)
  else .infinite negative

/-- Steps in the number one. -/
def stepsPerOne : Nat := 2 ^ (1074 : Nat)

/-- The number nearest to a natural. -/
def ofNat (n : Nat) : Binary64 := round false (n * stepsPerOne) 1

/-- The number nearest to an integer. -/
def ofInt (i : Int) : Binary64 := round (i < 0) (i.natAbs * stepsPerOne) 1

instance (n : Nat) : OfNat Binary64 n := ⟨ofNat n⟩

/-- The number that an interchange pattern of sign, 11 exponent bits and 52 fraction bits stands
    for. All patterns of a NaN stand for the one NaN. -/
def ofBits (bits : UInt64) : Binary64 :=
  let negative := bits >>> 63 == 1
  let exponent := ((bits >>> 52) &&& 0x7ff).toNat
  let fraction := (bits &&& 0xfffffffffffff).toNat
  if exponent = 0x7ff then if fraction = 0 then .infinite negative else .nan
  else if exponent = 0 then round negative fraction 1
  else round negative ((2 ^ (52 : Nat) + fraction) * 2 ^ (exponent - 1)) 1

end LinkedCharts.Binary64
