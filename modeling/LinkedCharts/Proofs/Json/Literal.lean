import LinkedCharts.Json.Numeral
import LinkedCharts.Proofs.Decimal.Digits
import LinkedCharts.Proofs.Text.Split

/-!
# Literals as decimals

A literal stands for a decimal: its digits before and behind the point, and an exponent that counts
those behind it.

Results:
* `Numeral.decimal`: the decimal that a literal stands for.
* `Numeral.ofChars?_spelling`: what is written of a decimal is a literal without an exponent.
* `Numeral.nearest_decimal`: that literal rounds to what the decimal rounds to.
-/

namespace LinkedCharts.Json.Numeral

open Decimal (Spelling pointed)

/-- The decimal that a literal stands for. -/
def decimal (l : Numeral) : Decimal :=
  ⟨ofDigits (l.whole ++ l.fraction.getD []),
    l.exponent.getD 0 - ((l.fraction.getD []).length : ℤ)⟩

/-! ## Parts of a literal -/

theorem ofDigits_map_digit (cs : List Char) :
    ofDigits (cs.map digit) = Nat.ofDigitChars 10 cs 0 := by
  unfold ofDigits Nat.ofDigitChars
  rw [List.foldl_map]
  rfl

theorem digit_eq_zero {c : Char} (h : c.isDigit = true) (hzero : digit c = 0) : c = '0' := by
  unfold digit at hzero
  have hge : '0'.toNat ≤ c.toNat := by
    simp only [Char.isDigit, Bool.and_eq_true, decide_eq_true_eq] at h
    exact h.1
  exact Char.toNat_inj.1 (by omega)

/-- Digits end where the text ends or a point stands. -/
theorem splitDigits_append {ds rest : List Char} (hdigits : ∀ c ∈ ds, c.isDigit = true)
    (hrest : ∀ c ∈ rest.head?, c.isDigit = false) :
    splitDigits (ds ++ rest) = (ds.map digit, rest) := by
  unfold splitDigits
  rw [Text.takeWhile_append_eq hdigits hrest, Text.dropWhile_append_eq hdigits hrest]

theorem splitDigits_self {ds : List Char} (hdigits : ∀ c ∈ ds, c.isDigit = true) :
    splitDigits ds = (ds.map digit, []) := by
  have hsplit : splitDigits (ds ++ []) = (ds.map digit, []) := splitDigits_append hdigits nofun
  rwa [List.append_nil] at hsplit

theorem readFraction_pointed {fraction : List Char} (h : ∀ c ∈ fraction, c.isDigit = true) :
    readFraction (pointed fraction) =
      some (if fraction = [] then none else some (fraction.map digit), []) := by
  cases fraction with
  | nil => rfl
  | cons c rest =>
    have hsplit := splitDigits_self h
    simp only [pointed, if_neg (List.cons_ne_nil c rest), readFraction, hsplit, List.map_cons]

/-! ## Literals -/

variable {d : Decimal} {whole fraction : List Char}

/-- The literal that is written of a decimal. -/
def spelled (negative : Bool) (whole fraction : List Char) : Numeral :=
  ⟨negative, whole.map digit, if fraction = [] then none else some (fraction.map digit), none⟩

theorem fraction_spelled (negative : Bool) (whole fraction : List Char) :
    (spelled negative whole fraction).fraction.getD [] = fraction.map digit := by
  unfold spelled
  dsimp only
  split
  · rename_i h
    rw [h]
    rfl
  · rfl

/-- A zero in front is the only digit before the point. -/
theorem map_digit_ne_zero_cons (h : d.Spelling whole fraction) (e : ℕ) (ds : List ℕ) :
    whole.map digit ≠ 0 :: e :: ds := by
  intro heq
  cases hwhole : whole with
  | nil => exact h.whole_ne_nil hwhole
  | cons c rest =>
    have hc := h.digits c (by simp [hwhole])
    have hlead := h.lead
    rw [hwhole] at heq hlead
    obtain ⟨hfirst, hmore⟩ := List.cons.inj heq
    rw [digit_eq_zero hc hfirst] at hlead
    rw [(List.cons.inj (hlead rfl)).2] at hmore
    cases hmore

/-- Only a sign is a minus. -/
theorem positional_ne_minus (h : d.Spelling whole fraction) (cs : List Char) :
    d.positional ≠ '-' :: cs := by
  rw [h.text]
  cases hwhole : whole with
  | nil => exact absurd hwhole h.whole_ne_nil
  | cons c rest =>
    have hc := h.digits c (by simp [hwhole])
    intro heq
    rw [(List.cons.inj heq).1] at hc
    exact absurd hc (by decide)

/-- What is written of a decimal, with or without a sign, is a literal without an exponent. -/
theorem ofChars?_spelling (h : d.Spelling whole fraction) (negative : Bool) :
    ofChars? (if negative then '-' :: d.positional else d.positional) =
      some (spelled negative whole fraction) := by
  have hpoint : ∀ c ∈ (pointed fraction).head?, c.isDigit = false := by
    unfold pointed
    split
    · simp
    · simp
  have hsplit : splitDigits d.positional = (whole.map digit, pointed fraction) := by
    rw [h.text]
    exact splitDigits_append (fun c hc => h.digits c (List.mem_append_left _ hc)) hpoint
  have hread := readFraction_pointed fun c hc => h.digits c (List.mem_append_right whole hc)
  unfold ofChars?
  split
  rename_i sign cs hcs
  have hsign : (sign, cs) = (negative, d.positional) := by
    rw [← hcs]
    cases negative with
    | true => rfl
    | false =>
      rw [if_neg Bool.false_ne_true]
      split
      · rename_i heq
        exact absurd heq (positional_ne_minus h _)
      · rfl
  obtain ⟨rfl, rfl⟩ := Prod.mk.inj hsign
  rw [hsplit]
  dsimp only
  split
  · rename_i heq
    exact absurd (List.map_eq_nil_iff.1 heq) h.whole_ne_nil
  · rename_i heq
    exact absurd heq (map_digit_ne_zero_cons h _ _)
  · rw [hread]
    rfl

/-- That literal rounds to what the decimal rounds to. -/
theorem nearest_decimal (h : d.Spelling whole fraction) (negative : Bool) :
    (spelled negative whole fraction).decimal.nearest = d.nearest := by
  unfold decimal
  rw [fraction_spelled]
  unfold spelled
  dsimp only
  rw [← List.map_append, ofDigits_map_digit, List.length_map, Option.getD_none, Int.zero_sub]
  exact h.value

end LinkedCharts.Json.Numeral
