import LinkedCharts.Http.Metrics
import LinkedCharts.Proofs.Decimal.Shortest
import LinkedCharts.Proofs.Json.Literal
import LinkedCharts.Proofs.Window.Near

/-!
# Times in a query

A time is written in one of two ways, as an integer or in its shortest digits. Both ways write the
same digits; the only difference is the sign of a negative zero, which an integer does not have.

Results:
* `sinceText_finite`: a finite time is written in its shortest digits, and zero without a sign.
* `sinceText_denotes_time`: the text is a literal without an exponent, with a point just if the time
  is not whole, and reads back as the time, so that different times have different texts.
-/

namespace LinkedCharts

open Binary64 Json

/-! ## One text for both ways -/

/-- An integer has the sign of the number that it comes from, unless it is zero. -/
theorem integerText_signed (negative : Bool) (k : ℕ) :
    String.ofList (sinceText.integerText (signed negative k)) =
      withSign (negative && k != 0) (Nat.toDigits 10 k) := by
  unfold sinceText.integerText withSign
  rw [natAbs_signed]
  have hsign : signed negative k < 0 ↔ (negative && k != 0) = true := by
    cases negative with
    | false => simp [signed]
    | true => simpa [signed] using Nat.pos_iff_ne_zero
  simp only [hsign]

/-- A finite time is written in its shortest digits, and zero without a sign. -/
theorem sinceText_finite (negative : Bool) (n : ℕ) (hfits : Fits n) :
    sinceText (.finite negative n hfits) =
      withSign (negative && n != 0) (Decimal.shortest .up n).positional := by
  have hways : sinceText (.finite negative n hfits) =
      if n % stepsPerOne = 0 ∧ n / stepsPerOne < wholeLimit then
        String.ofList (sinceText.integerText (signed negative (n / stepsPerOne)))
      else withSign negative (Decimal.shortest .up n).positional := by
    unfold sinceText truncate? isWhole
    simp only [natAbs_signed, beq_iff_eq]
    rfl
  rw [hways]
  split
  · rename_i h
    obtain ⟨k, hk⟩ := Nat.dvd_of_mod_eq_zero h.1
    rw [Nat.mul_comm] at hk
    have hdiv : n / stepsPerOne = k := by rw [hk, Nat.mul_div_cancel _ stepsPerOne_pos]
    have hzero : (n != 0) = (k != 0) := by
      rw [Bool.eq_iff_iff, bne_iff_ne, bne_iff_ne, hk, ne_eq, Nat.mul_eq_zero,
        or_iff_left (Nat.ne_of_gt stepsPerOne_pos)]
    rw [hdiv] at h ⊢
    rw [integerText_signed, hzero, hk, Decimal.positional_shortest_of_whole .up h.2]
  · rename_i h
    have hne : n ≠ 0 := by
      rintro rfl
      exact h ⟨Nat.zero_mod _, by rw [Nat.zero_div]; decide⟩
    rw [bne_iff_ne.2 hne, Bool.and_true]

/-- A negative zero is all that is written in two ways. -/
theorem sinceText_eq_text {t : Binary64} (hfinite : t.isFinite = true) (ht : t ≠ zero true) :
    sinceText t = t.text := by
  cases t with
  | finite negative n hfits =>
    rw [sinceText_finite]
    cases negative with
    | false => rfl
    | true =>
      have hne : n ≠ 0 := by
        rintro rfl
        exact ht rfl
      rw [bne_iff_ne.2 hne]
      rfl
  | infinite s => cases hfinite
  | nan => cases hfinite

/-! ## Reading -/

theorem exists_spelling_shortest {n : ℕ} (h : Fits n) :
    ∃ whole fraction, (Decimal.shortest .up n).Spelling whole fraction := by
  by_cases hn : n = 0
  · rw [hn, Decimal.shortest_zero]
    exact ⟨_, _, Decimal.spelling_zero⟩
  · exact Decimal.exists_spelling (Decimal.digits_shortest_ne_zero .up hn h.2)

theorem signed_and_ne_zero (negative : Bool) (n : ℕ) :
    signed (negative && n != 0) n = signed negative n := by
  rcases Nat.eq_zero_or_pos n with rfl | hn
  · cases negative with
    | false => rfl
    | true => rfl
  · rw [bne_iff_ne.2 (Nat.ne_of_gt hn), Bool.and_true]

theorem place_of_readsBack {d : Decimal} {n : ℕ} (h : d.ReadsBack n) (hlt : n < limit)
    (negative : Bool) :
    (d.toBinary64 (negative && n != 0)).place = some (signed negative n) := by
  have hback : Binary64.nearest d.stepsNum d.stepsDen = n := h
  unfold Decimal.toBinary64
  rw [place_round, hback, Nat.min_eq_left (Nat.le_of_lt hlt), signed_and_ne_zero]

/-- A decimal that reads back rounds to the number, but for the sign of zero. -/
theorem same_of_readsBack {d : Decimal} {n : ℕ} (h : d.ReadsBack n) (negative : Bool)
    (hfits : Fits n) : (d.toBinary64 (negative && n != 0)).Same (.finite negative n hfits) :=
  Same.of_place (place_of_readsBack h hfits.1 negative) rfl

/-- A finite time is written with a sign or without one, in some digits and perhaps a point with
    digits behind it, and this is a literal that reads back. -/
theorem exists_literal {t : Binary64} (ht : t.isFinite = true) :
    ∃ (negative : Bool) (whole fraction : List Char),
      (sinceText t).toList =
        (if negative then ['-'] else []) ++ whole ++ Decimal.pointed fraction ∧
      whole ≠ [] ∧ (∀ c ∈ whole ++ fraction, c.isDigit = true) ∧
      (fraction ≠ [] ↔ t.isWhole = false) ∧
      Numeral.ofChars? (sinceText t).toList = some (Numeral.spelled negative whole fraction) ∧
      ((Numeral.spelled negative whole fraction).decimal.toBinary64 negative).Same t := by
  cases t with
  | infinite s => cases ht
  | nan => cases ht
  | finite s n hfits =>
    obtain ⟨whole, fraction, hspell⟩ := exists_spelling_shortest hfits
    have htext : (sinceText (.finite s n hfits)).toList =
        if (s && n != 0) then '-' :: (Decimal.shortest .up n).positional
        else (Decimal.shortest .up n).positional := by
      rw [sinceText_finite]
      exact String.toList_ofList
    refine ⟨s && n != 0, whole, fraction, ?_, hspell.whole_ne_nil, hspell.digits, ?_, ?_, ?_⟩
    · rw [htext, hspell.text]
      split
      · rfl
      · rfl
    · rw [hspell.point, ← Int.not_le, Decimal.scale_shortest_nonneg_iff .up hfits.2]
      simp [isWhole]
    · rw [htext]
      exact Numeral.ofChars?_spelling hspell _
    · exact same_of_readsBack ((Numeral.nearest_decimal hspell _).trans
        (Decimal.shortest_readsBack .up hfits.2)) s hfits

/-- There is a point in what is written just if there are digits behind it. -/
theorem point_mem_iff {negative : Bool} {whole fraction : List Char}
    (hdigits : ∀ c ∈ whole ++ fraction, c.isDigit = true) :
    '.' ∈ (if negative then ['-'] else []) ++ whole ++ Decimal.pointed fraction ↔
      fraction ≠ [] := by
  have hpoint : '.' ∉ (if negative then ['-'] else []) ++ whole := by
    rw [List.mem_append]
    rintro (hsign | hwhole)
    · cases negative with
      | false => cases hsign
      | true => exact absurd hsign (by decide)
    · exact absurd (hdigits '.' (List.mem_append_left _ hwhole)) (by decide)
  rw [List.mem_append, or_iff_right hpoint]
  unfold Decimal.pointed
  split
  · rename_i h
    simp [h]
  · rename_i h
    simp [h]

/-- The text of a time denotes it. For every finite time the text is an optional minus sign and
    digits, perhaps with a point and digits behind it, and no exponent. It has a point just if the
    time is not whole. Read as a decimal and rounded once it is a number equal to the time. A whole
    number below `2 ^ 53` other than a negative zero is written the same as an integer and in its
    shortest digits, and times that are not equal never share a text. -/
theorem sinceText_denotes_time {t : Binary64} (ht : t.isFinite = true) :
    ∃ (negative : Bool) (whole fraction : List Char) (l : Numeral),
      (sinceText t).toList =
        (if negative then ['-'] else []) ++ whole ++ Decimal.pointed fraction ∧
      whole ≠ [] ∧ (∀ c ∈ whole ++ fraction, c.isDigit = true) ∧
      ('.' ∈ (sinceText t).toList ↔ t.isWhole = false) ∧
      Numeral.ofChars? (sinceText t).toList = some l ∧ l.exponent = none ∧
      (l.decimal.toBinary64 l.negative).Same t ∧
      (∀ i, t.truncate? = some i → t.isWhole = true → i.natAbs < wholeLimit → t ≠ zero true →
        String.ofList (sinceText.integerText i) = t.text) ∧
      ∀ u, u.isFinite = true → sinceText u = sinceText t → u.Same t := by
  obtain ⟨negative, whole, fraction, htext, hne, hdigits, hpoint, hread, hsame⟩ := exists_literal ht
  refine ⟨negative, whole, fraction, Numeral.spelled negative whole fraction, htext, hne, hdigits,
    ?_, hread, rfl, hsame, ?_, ?_⟩
  · rw [htext, point_mem_iff hdigits, hpoint]
  · intro i hi hwhole hsmall hzero
    rw [← sinceText_eq_text ht hzero]
    unfold sinceText
    rw [hi]
    exact (if_pos ⟨hwhole, hsmall⟩).symm
  · intro u hu hsameText
    obtain ⟨negative', whole', fraction', -, -, -, -, hread', hsame'⟩ := exists_literal hu
    rw [hsameText, hread] at hread'
    obtain hliteral := Option.some.inj hread'
    have hnegative : negative = negative' := congrArg Numeral.negative hliteral
    rw [← hliteral, ← hnegative] at hsame'
    exact hsame'.symm.trans hsame

/-- The number next to a tenth, which has 55 digits behind the point, is written with one. -/
theorem sinceText_denotes_time_tenth :
    let t := ofBits 0xbfb999999999999a
    t.isFinite = true ∧ sinceText t = "-0.1" ∧ '.' ∈ "-0.1".toList ∧
    (∃ l, Numeral.ofChars? "-0.1".toList = some l ∧ (l.decimal.toBinary64 l.negative).Same t) ∧
    ∀ u, u.isFinite = true → sinceText u = "-0.1" → u.Same t := by
  intro t
  have hfinite : t.isFinite = true := by decide +kernel
  have htext : sinceText t = "-0.1" := by decide +kernel
  have hpart : t.isWhole = false := by decide +kernel
  obtain ⟨-, -, -, l, -, -, -, hpoint, hread, -, hsame, -, hinjective⟩ :=
    sinceText_denotes_time hfinite
  rw [htext] at hpoint hread hinjective
  exact ⟨hfinite, htext, hpoint.2 hpart, ⟨l, hread, hsame⟩, hinjective⟩

end LinkedCharts
