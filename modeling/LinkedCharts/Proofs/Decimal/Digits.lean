import LinkedCharts.Decimal.Basic
import LinkedCharts.Proofs.Binary64.Rounding

/-!
# Digits in their places

A decimal that is not zero is a number that does not end in a zero, times a power of ten. Its digits
are those of that number, and what is written is one of three things: the digits and zeros behind
them, the digits with a point among them, or a zero, a point, and the digits behind some zeros.

Results:
* `nearest_mul_pow`, `positional_mul_pow`: neither the value of a decimal nor its text depends on
  how many of its zeros count as digits.
* `Spelling`, `exists_spelling`: what is written is digits, perhaps with a point and digits behind
  it, which spell the value of the decimal.
* `positional_natCast`: a natural is written in its digits.
-/

namespace LinkedCharts

namespace Decimal

/-! ## Values -/

theorem stepsDen_pos (d : Decimal) : 0 < d.stepsDen := Nat.pow_pos (by decide)

theorem nearest_congr {d d' : Decimal} (h : d.stepsNum * d'.stepsDen = d'.stepsNum * d.stepsDen) :
    d.nearest = d'.nearest :=
  Binary64.nearest_congr d.stepsDen_pos d'.stepsDen_pos h

/-- Zeros at the end of the digits can count into the exponent. -/
theorem nearest_mul_pow (a j : ℕ) (e : ℤ) :
    nearest ⟨a * 10 ^ j, e⟩ = nearest ⟨a, e + j⟩ := by
  apply nearest_congr
  have hexponents : j + e.toNat + (-(e + j)).toNat = (e + j).toNat + (-e).toNat := by omega
  unfold stepsNum stepsDen
  dsimp only
  calc a * 10 ^ j * 10 ^ e.toNat * Binary64.stepsPerOne * 10 ^ (-(e + j)).toNat
      = a * 10 ^ (j + e.toNat + (-(e + j)).toNat) * Binary64.stepsPerOne := by
        rw [Nat.pow_add, Nat.pow_add]; ring
    _ = a * 10 ^ ((e + j).toNat + (-e).toNat) * Binary64.stepsPerOne := by rw [hexponents]
    _ = a * 10 ^ (e + j).toNat * Binary64.stepsPerOne * 10 ^ (-e).toNat := by
        rw [Nat.pow_add]; ring

theorem nearest_zero (e : ℤ) : nearest ⟨0, e⟩ = 0 := by
  unfold nearest stepsNum
  rw [Nat.zero_mul, Nat.zero_mul]
  have hsame : Binary64.nearest 0 (stepsDen ⟨0, e⟩) = Binary64.nearest 0 1 :=
    Binary64.nearest_congr (stepsDen_pos _) Nat.one_pos (by rw [Nat.zero_mul, Nat.zero_mul])
  rw [hsame]
  exact Binary64.nearest_of_grid rfl

theorem nearest_natCast (a : ℕ) :
    nearest ⟨a, 0⟩ = Binary64.nearest (a * Binary64.stepsPerOne) 1 := by
  unfold nearest stepsNum stepsDen
  rw [Int.neg_zero, Int.toNat_zero, Nat.pow_zero, Nat.mul_one]

/-! ## Zeros at the end -/

theorem toDigits_mul_ten {a : ℕ} (h : 0 < a) :
    Nat.toDigits 10 (a * 10) = Nat.toDigits 10 a ++ ['0'] := by
  rw [Nat.mul_comm, ← Nat.add_zero (10 * a),
    ← Nat.toDigits_append_toDigits (by decide) h (by decide)]
  rfl

theorem toDigits_mul_pow {a : ℕ} (h : 0 < a) (j : ℕ) :
    Nat.toDigits 10 (a * 10 ^ j) = Nat.toDigits 10 a ++ List.replicate j '0' := by
  induction j with
  | zero => simp
  | succ j ih =>
    rw [Nat.pow_succ, ← Nat.mul_assoc, toDigits_mul_ten (Nat.mul_pos h (Nat.pow_pos (by decide))),
      ih, List.append_assoc, List.replicate_succ']

theorem significand_mul_ten {a : ℕ} (h : 0 < a) (e e' : ℤ) :
    significand ⟨a * 10, e⟩ = significand ⟨a, e'⟩ := by
  have hne : a ≠ 0 := Nat.ne_of_gt h
  simp [significand, toDigits_mul_ten h, hne]

theorem significand_length_le (d : Decimal) :
    d.significand.length ≤ (Nat.toDigits 10 d.digits).length := by
  unfold significand
  dsimp only
  split
  · exact Nat.le_refl _
  · have h :=
      (List.dropWhile_sublist (· == '0') (l := (Nat.toDigits 10 d.digits).reverse)).length_le
    simpa using h

theorem scale_mul_ten {a : ℕ} (h : 0 < a) (e : ℤ) : scale ⟨a * 10, e⟩ = scale ⟨a, e + 1⟩ := by
  have hle := significand_length_le ⟨a, e + 1⟩
  unfold scale
  rw [significand_mul_ten h e (e + 1)]
  dsimp only at hle ⊢
  rw [toDigits_mul_ten h, List.length_append, List.length_singleton]
  omega

theorem scale_mul_pow {a : ℕ} (h : 0 < a) (j : ℕ) (e : ℤ) :
    scale ⟨a * 10 ^ j, e⟩ = scale ⟨a, e + j⟩ := by
  induction j generalizing e with
  | zero => simp
  | succ j ih =>
    rw [Nat.pow_succ, ← Nat.mul_assoc, scale_mul_ten (Nat.mul_pos h (Nat.pow_pos (by decide))), ih]
    congr 2
    omega

theorem significand_mul_pow {a : ℕ} (h : 0 < a) (j : ℕ) (e e' : ℤ) :
    significand ⟨a * 10 ^ j, e⟩ = significand ⟨a, e'⟩ := by
  induction j with
  | zero => rw [Nat.pow_zero, Nat.mul_one]; rfl
  | succ j ih =>
    rw [Nat.pow_succ, ← Nat.mul_assoc,
      significand_mul_ten (Nat.mul_pos h (Nat.pow_pos (by decide))) e e, ih]

/-- Zeros at the end of the digits are written the same if they count into the exponent. -/
theorem positional_mul_pow {a : ℕ} (h : 0 < a) (j : ℕ) (e : ℤ) :
    positional ⟨a * 10 ^ j, e⟩ = positional ⟨a, e + j⟩ := by
  unfold positional
  rw [significand_mul_pow h j e (e + j), scale_mul_pow h]

/-! ## Digits without zeros at the end -/

/-- A number that is not zero is one without a zero at its end, times a power of ten. -/
theorem exists_reduced {a : ℕ} (h : a ≠ 0) : ∃ m j, m % 10 ≠ 0 ∧ a = m * 10 ^ j := by
  induction a using Nat.strong_induction_on with
  | _ a ih =>
    by_cases hlast : a % 10 = 0
    · obtain ⟨m, j, hm, hdiv⟩ := ih (a / 10) (by omega) (by omega)
      refine ⟨m, j + 1, hm, ?_⟩
      rw [Nat.pow_succ, ← Nat.mul_assoc, ← hdiv]
      omega
    · exact ⟨a, 0, hlast, (Nat.mul_one a).symm⟩

/-- The last digit. -/
theorem exists_toDigits_eq (m : ℕ) :
    ∃ front, Nat.toDigits 10 m = front ++ [Nat.digitChar (m % 10)] := by
  rw [Nat.toDigits_eq_if (by decide)]
  split
  · exact ⟨[], by rw [Nat.mod_eq_of_lt (by assumption), List.nil_append]⟩
  · exact ⟨_, rfl⟩

theorem significand_of_reduced {m : ℕ} (h : m % 10 ≠ 0) (e : ℤ) :
    significand ⟨m, e⟩ = Nat.toDigits 10 m := by
  obtain ⟨front, hfront⟩ := exists_toDigits_eq m
  have hlast : ¬ (Nat.digitChar (m % 10) == '0') = true := by
    rw [beq_iff_eq, Nat.digitChar_eq_zero]
    exact h
  unfold significand
  dsimp only
  split
  · rfl
  · rw [hfront, List.reverse_append, List.reverse_singleton, List.singleton_append,
      List.dropWhile_cons, if_neg hlast, List.reverse_cons, List.reverse_reverse]

theorem scale_of_reduced {m : ℕ} (h : m % 10 ≠ 0) (e : ℤ) : scale ⟨m, e⟩ = e := by
  unfold scale
  rw [significand_of_reduced h, Nat.sub_self]
  exact Int.add_zero e

/-! ## The first digit -/

theorem head?_toDigits_append (m : ℕ) (behind : List Char) :
    (Nat.toDigits 10 m ++ behind).head? = (Nat.toDigits 10 m).head? := by
  obtain ⟨c, rest, h⟩ := List.exists_cons_of_ne_nil (Nat.toDigits_ne_nil (n := m) (b := 10))
  rw [h]
  rfl

theorem head?_toDigits_ne {m : ℕ} (h : 0 < m) : (Nat.toDigits 10 m).head? ≠ some '0' := by
  induction m using Nat.strong_induction_on with
  | _ m ih =>
    rw [Nat.toDigits_eq_if (by decide)]
    split
    · simpa [Nat.digitChar_eq_zero] using Nat.ne_of_gt h
    · rw [head?_toDigits_append]
      exact ih (m / 10) (by omega) (by omega)

/-! ## What is written -/

/-- A point and digits, if there are digits. -/
def pointed (fraction : List Char) : List Char := if fraction = [] then [] else '.' :: fraction

/-- A decimal is written with some digits before the point and some behind it, which spell its
    value. There is no zero in front unless it is the only digit before the point, and there is a
    point just if the last digit that is not a zero has to stand behind it. -/
structure Spelling (d : Decimal) (whole fraction : List Char) : Prop where
  text : d.positional = whole ++ pointed fraction
  digits : ∀ c ∈ whole ++ fraction, c.isDigit = true
  whole_ne_nil : whole ≠ []
  lead : whole.head? = some '0' → whole = ['0']
  point : fraction ≠ [] ↔ d.scale < 0
  value : nearest ⟨Nat.ofDigitChars 10 (whole ++ fraction) 0, -(fraction.length : ℤ)⟩ = d.nearest

theorem spelling_zero : Spelling ⟨0, 0⟩ ['0'] [] where
  text := rfl
  digits := by simp
  whole_ne_nil := by simp
  lead := fun _ => rfl
  point := by decide
  value := rfl

theorem isDigit_of_mem_zeros_append {c : Char} {zeros m : ℕ}
    (h : c ∈ List.replicate zeros '0' ++ Nat.toDigits 10 m) : c.isDigit = true := by
  rcases List.mem_append.1 h with hzero | hdigit
  · rw [List.eq_of_mem_replicate hzero]
    rfl
  · exact Nat.isDigit_of_mem_toDigits (by decide) (by decide) hdigit

variable {m : ℕ}

/-- Zeros stand behind the digits. -/
theorem spelling_of_nonneg (h : m % 10 ≠ 0) (zeros : ℕ) :
    Spelling ⟨m, zeros⟩ (Nat.toDigits 10 m ++ List.replicate zeros '0') [] where
  text := by
    unfold positional
    rw [significand_of_reduced h, scale_of_reduced h]
    exact (List.append_nil _).symm
  digits := by
    intro c hc
    rw [List.append_nil, List.mem_append, or_comm, ← List.mem_append] at hc
    exact isDigit_of_mem_zeros_append hc
  whole_ne_nil := List.append_ne_nil_of_left_ne_nil Nat.toDigits_ne_nil _
  lead := by
    rw [head?_toDigits_append]
    exact fun hzero => absurd hzero (head?_toDigits_ne (by omega))
  point := by simp [scale_of_reduced h]
  value := by
    rw [List.append_nil, Nat.ofDigitChars_append, Nat.ofDigitChars_ten_toDigits,
      Nat.ofDigitChars_replicate_zero, Nat.mul_comm, nearest_mul_pow]
    simp

/-- The digits stand on both sides of the point. -/
theorem spelling_of_lt {n : ℕ} (h : m % 10 ≠ 0) (hlt : n + 1 < (Nat.toDigits 10 m).length) :
    Spelling ⟨m, .negSucc n⟩
      ((Nat.toDigits 10 m).take ((Nat.toDigits 10 m).length - (n + 1)))
      ((Nat.toDigits 10 m).drop ((Nat.toDigits 10 m).length - (n + 1))) where
  text := by
    have hne : (Nat.toDigits 10 m).drop ((Nat.toDigits 10 m).length - (n + 1)) ≠ [] := by
      rw [ne_eq, List.drop_eq_nil_iff]
      omega
    unfold positional pointed
    rw [significand_of_reduced h, scale_of_reduced h, if_neg hne]
    dsimp only
    rw [if_pos hlt]
  digits := by
    rw [List.take_append_drop]
    exact fun c hc => Nat.isDigit_of_mem_toDigits (by decide) (by decide) hc
  whole_ne_nil := by
    rw [ne_eq, List.take_eq_nil_iff]
    exact fun hnil => hnil.elim (by omega) Nat.toDigits_ne_nil
  lead := by
    rw [List.head?_take, if_neg (by omega)]
    exact fun hzero => absurd hzero (head?_toDigits_ne (by omega))
  point := by
    rw [scale_of_reduced h, ne_eq, List.drop_eq_nil_iff]
    omega
  value := by
    rw [List.take_append_drop, Nat.ofDigitChars_ten_toDigits, List.length_drop]
    congr 2
    omega

/-- The digits stand behind the point, after some zeros. -/
theorem spelling_of_le {n : ℕ} (h : m % 10 ≠ 0) (hle : (Nat.toDigits 10 m).length ≤ n + 1) :
    Spelling ⟨m, .negSucc n⟩ ['0']
      (List.replicate (n + 1 - (Nat.toDigits 10 m).length) '0' ++ Nat.toDigits 10 m) where
  text := by
    unfold positional pointed
    rw [significand_of_reduced h, scale_of_reduced h,
      if_neg (List.append_ne_nil_of_right_ne_nil _ Nat.toDigits_ne_nil)]
    dsimp only
    rw [if_neg (Nat.not_lt.2 hle)]
    rfl
  digits := by
    rw [← List.append_assoc, show ['0'] = List.replicate 1 '0' from rfl,
      List.replicate_append_replicate]
    exact fun c hc => isDigit_of_mem_zeros_append hc
  whole_ne_nil := by simp
  lead := fun _ => rfl
  point := by
    rw [scale_of_reduced h]
    simp [Nat.toDigits_ne_nil]
  value := by
    rw [← List.append_assoc, show ['0'] = List.replicate 1 '0' from rfl,
      List.replicate_append_replicate, Nat.ofDigitChars_append, Nat.ofDigitChars_replicate_zero,
      Nat.mul_zero, Nat.ofDigitChars_ten_toDigits, List.length_append, List.length_replicate,
      Nat.sub_add_cancel hle]
    rfl

theorem exists_spelling_of_reduced (h : m % 10 ≠ 0) (e : ℤ) :
    ∃ whole fraction, Spelling ⟨m, e⟩ whole fraction := by
  cases e with
  | ofNat zeros => exact ⟨_, _, spelling_of_nonneg h zeros⟩
  | negSucc n =>
    rcases Nat.lt_or_ge (n + 1) (Nat.toDigits 10 m).length with hlt | hle
    · exact ⟨_, _, spelling_of_lt h hlt⟩
    · exact ⟨_, _, spelling_of_le h hle⟩

/-- Every decimal but zero with an exponent is spelled. -/
theorem exists_spelling {d : Decimal} (h : d.digits ≠ 0) :
    ∃ whole fraction, d.Spelling whole fraction := by
  obtain ⟨a, e⟩ := d
  obtain ⟨m, j, hm, rfl⟩ := exists_reduced h
  have hpos : 0 < m := by omega
  obtain ⟨whole, fraction, hspell⟩ := exists_spelling_of_reduced hm (e + j)
  exact ⟨whole, fraction, (positional_mul_pow hpos j e).trans hspell.text, hspell.digits,
    hspell.whole_ne_nil, hspell.lead, by rw [scale_mul_pow hpos]; exact hspell.point,
    hspell.value.trans (nearest_mul_pow m j e).symm⟩

/-- A decimal without digits behind the point is a natural. -/
theorem exists_natural {d : Decimal} (hdigits : d.digits ≠ 0) (hscale : 0 ≤ d.scale) :
    ∃ a, a ≠ 0 ∧ d.nearest = nearest ⟨a, 0⟩ ∧ d.positional = positional ⟨a, 0⟩ := by
  obtain ⟨a, e⟩ := d
  obtain ⟨m, j, hm, rfl⟩ := exists_reduced hdigits
  have hpos : 0 < m := by omega
  rw [scale_mul_pow hpos, scale_of_reduced hm] at hscale
  obtain ⟨zeros, hzeros⟩ := Int.eq_ofNat_of_zero_le hscale
  refine ⟨m * 10 ^ zeros, Nat.ne_of_gt (Nat.mul_pos hpos (Nat.pow_pos (by decide))), ?_, ?_⟩
  · rw [nearest_mul_pow, hzeros, nearest_mul_pow, Int.zero_add]
  · rw [positional_mul_pow hpos, hzeros, positional_mul_pow hpos, Int.zero_add]

/-- A natural is written in its digits. -/
theorem positional_natCast {a : ℕ} (h : a ≠ 0) : positional ⟨a, 0⟩ = Nat.toDigits 10 a := by
  obtain ⟨m, j, hm, rfl⟩ := exists_reduced h
  have hpos : 0 < m := by omega
  rw [positional_mul_pow hpos, Int.zero_add, (spelling_of_nonneg hm j).text, toDigits_mul_pow hpos]
  exact List.append_nil _

end Decimal

end LinkedCharts
