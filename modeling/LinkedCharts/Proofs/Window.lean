import LinkedCharts.Preset
import LinkedCharts.Proofs.Binary64.Rounding

/-!
# The ends of windows

`Window.make?` lets only finite ends in order through. Widening and joining compute new ends, and
those can leave the finite numbers; they never turn around, and never become a NaN.

Results:
* `Window.Ordered`: what holds of every window that the operations return.
* `Window.Ordered.widenedTo`, `Window.Ordered.union`, `Preset.resolve_ordered`: the operations keep
  it.
* `Window.WellFormed.union`, `Window.ofTree?_wellFormed`, `Preset.resolve_wellFormed`: what keeps
  the ends finite.
* `Window.Same.refl`: an ordered window has the same ends as itself.
-/

namespace LinkedCharts

namespace Window

open Binary64

/-! ## Order of the ends -/

/-- The ends are in order, and the window reaches into the finite numbers or spans them all. -/
structure Ordered (w : Window) : Prop where
  le : w.lo ≤ w.hi
  lo_ne : w.lo ≠ .infinite false
  hi_ne : w.hi ≠ .infinite true

instance (w : Window) : Decidable w.Ordered :=
  decidable_of_iff (w.lo ≤ w.hi ∧ w.lo ≠ .infinite false ∧ w.hi ≠ .infinite true)
    ⟨fun h => ⟨h.1, h.2.1, h.2.2⟩, fun h => ⟨h.le, h.lo_ne, h.hi_ne⟩⟩

theorem WellFormed.ordered {w : Window} (h : w.WellFormed) : w.Ordered := by
  obtain ⟨hlo, hhi, hle⟩ := h
  refine ⟨hle, ?_, ?_⟩
  · intro e
    rw [e] at hlo
    cases hlo
  · intro e
    rw [e] at hhi
    cases hhi

theorem Ordered.wellFormed {w : Window} (h : w.Ordered) (hlo : w.lo.isFinite = true)
    (hhi : w.hi.isFinite = true) : w.WellFormed := ⟨hlo, hhi, h.le⟩

theorem Ordered.lo_ne_nan {w : Window} (h : w.Ordered) : w.lo ≠ .nan := (ne_nan_of_le h.le).1

theorem Ordered.hi_ne_nan {w : Window} (h : w.Ordered) : w.hi ≠ .nan := (ne_nan_of_le h.le).2

theorem make?_eq_ok_iff {lo hi : Binary64} {w : Window} :
    make? lo hi = .ok w ↔ w = ⟨lo, hi⟩ ∧ w.WellFormed := by
  unfold make?
  split
  · rename_i h
    constructor
    · rintro ⟨⟩
      exact ⟨rfl, h⟩
    · rintro ⟨rfl, -⟩
      rfl
  · rename_i h
    constructor
    · rintro ⟨⟩
    · rintro ⟨rfl, hw⟩
      exact absurd hw h

/-! ## Equal ends -/

theorem Same.refl {w : Window} (h : w.Ordered) : w.Same w :=
  ⟨Binary64.Same.refl h.lo_ne_nan, Binary64.Same.refl h.hi_ne_nan⟩

/-! ## Widening -/

/-- A window with an infinite end has an infinite span. -/
theorem Ordered.finite_or_span {w : Window} (h : w.Ordered) :
    (w.lo.isFinite = true ∧ w.hi.isFinite = true) ∨ w.span = .infinite false := by
  obtain ⟨lo, hi⟩ := w
  cases lo with
  | nan => exact absurd rfl h.lo_ne_nan
  | infinite s =>
    cases s with
    | false => exact absurd rfl h.lo_ne
    | true =>
      cases hi with
      | nan => exact absurd rfl h.hi_ne_nan
      | infinite t =>
        cases t with
        | false => exact Or.inr rfl
        | true => exact absurd rfl h.hi_ne
      | finite t n hn => exact Or.inr rfl
  | finite s m hm =>
    cases hi with
    | nan => exact absurd rfl h.hi_ne_nan
    | infinite t =>
      cases t with
      | false => exact Or.inr rfl
      | true => exact absurd rfl h.hi_ne
    | finite t n hn => exact Or.inl ⟨rfl, rfl⟩

/-- The span between finite ends is the rounded distance, and not negative. -/
theorem Ordered.span_place {w : Window} (h : w.Ordered) (hlo : w.lo.isFinite = true)
    (hhi : w.hi.isFinite = true) :
    ∃ a b, w.lo.place = some a ∧ w.hi.place = some b ∧ a ≤ b ∧
      w.span.place = some (stepsPlace (b - a)) ∧ 0 ≤ stepsPlace (b - a) := by
  obtain ⟨a, b, ha, hb, hab⟩ := exists_places_of_le h.le
  refine ⟨a, b, ha, hb, hab, place_sub hhi hlo hb ha, ?_⟩
  rw [← stepsPlace_zero]
  exact stepsPlace_mono (by omega)

/-- The centre of a window with finite span is finite and lies in the window. -/
theorem Ordered.centre {w : Window} (h : w.Ordered) (hs : w.span.isFinite = true) :
    (w.lo + w.span.half).isFinite = true ∧ w.Contains (w.lo + w.span.half) := by
  have hends : w.lo.isFinite = true ∧ w.hi.isFinite = true := by
    rcases h.finite_or_span with hends | hinf
    · exact hends
    · rw [hinf] at hs
      cases hs
  obtain ⟨hlo, hhi⟩ := hends
  obtain ⟨a, b, ha, hb, hab, hspan, hnonneg⟩ := h.span_place hlo hhi
  obtain ⟨hhalf, hplace⟩ := place_half hs hspan hnonneg
  -- half of the rounded span is at most the exact span, so that the exact centre is inside
  have hle : (nearest (stepsPlace (b - a)).toNat 2 : Int) ≤ b - a := by
    obtain ⟨e, he, -, hlt⟩ := isFinite_iff_place.1 hs
    rw [hspan] at he
    cases he
    have hround : (stepsPlace (b - a)).toNat = nearest (b - a).natAbs 1 := by
      unfold stepsPlace signed at hlt ⊢
      simp only [show ¬ b - a < 0 by omega, decide_false] at hlt ⊢
      simp only [Bool.false_eq_true, if_false] at hlt ⊢
      omega
    have := nearest_nearest_two_le (b - a).natAbs
    rw [hround]
    omega
  have hc := place_add hlo hhalf ha hplace
  have hlow : w.lo ≤ w.lo + w.span.half := by
    rw [le_iff_of_place ha hc]
    calc a = stepsPlace a := (stepsPlace_of_place hlo ha).symm
      _ ≤ _ := stepsPlace_mono (by omega)
  have hhigh : w.lo + w.span.half ≤ w.hi := by
    rw [le_iff_of_place hc hb]
    calc _ ≤ stepsPlace b := stepsPlace_mono (by omega)
      _ = b := stepsPlace_of_place hhi hb
  exact ⟨isFinite_of_between hlo hhi hlow hhigh, hlow, hhigh⟩

/-- Two ends at the same distance on both sides of a finite time are in order. -/
theorem ordered_around {c m : Binary64} {k : Int} (hc : c.isFinite = true)
    (hm : m.isFinite = true) (hk : m.place = some k) (h0 : 0 ≤ k) :
    (Window.mk (c - m) (c + m)).Ordered := by
  obtain ⟨p, hp, hlow, hhigh⟩ := isFinite_iff_place.1 hc
  have hlo := place_sub hc hm hp hk
  have hhi := place_add hc hm hp hk
  have hself := stepsPlace_of_place hc hp
  have hl : stepsPlace (p - k) ≤ stepsPlace p := stepsPlace_mono (by omega)
  have hr : stepsPlace p ≤ stepsPlace (p + k) := stepsPlace_mono (by omega)
  refine ⟨?_, ?_, ?_⟩
  · rw [le_iff_of_place hlo hhi]
    omega
  · exact ne_infinite_of_lt_limit hlo (by omega)
  · exact ne_infinite_of_limit_lt hhi (by omega)

/-- Widening never turns a window around, whatever the minimum is. -/
theorem Ordered.widenedTo {w : Window} (h : w.Ordered) (minimum : Binary64) :
    (w.widenedTo minimum).Ordered := by
  unfold Window.widenedTo
  split
  · exact h
  · rename_i hcond
    obtain ⟨hfin, hlong⟩ := not_or.1 hcond
    have hfin : minimum.isFinite = true := by simpa using hfin
    have hnan := ne_nan_of_isFinite hfin
    -- a window shorter than a finite minimum has finite ends
    rcases h.finite_or_span with ⟨hlo, hhi⟩ | hinf
    · obtain ⟨a, b, ha, hb, hab, hspan, hnonneg⟩ := h.span_place hlo hhi
      obtain ⟨k, hk, -, hlt⟩ := isFinite_iff_place.1 hfin
      rw [le_iff_of_place hk hspan] at hlong
      have hs : w.span.isFinite = true :=
        isFinite_iff_place.2 ⟨_, hspan, by omega, by omega⟩
      obtain ⟨hhalf, hplace⟩ := place_half hfin hk (by omega)
      exact ordered_around (h.centre hs).1 hhalf hplace (by omega)
    · rw [hinf] at hlong
      exact absurd (le_infinite hnan) hlong

/-! ## Joining -/

/-- The smallest window that covers two windows has its ends in order. -/
theorem Ordered.union {v w : Window} (hv : v.Ordered) (hw : w.Ordered) : (v.union w).Ordered := by
  refine ⟨?_, ?_, ?_⟩
  · have hlo := min_le_left hv.lo_ne_nan hw.lo_ne_nan
    have hhi := le_max_left hv.hi_ne_nan hw.hi_ne_nan
    exact le_trans hlo (le_trans hv.le hhi)
  · show v.lo.min w.lo ≠ _
    rcases min_eq_or v.lo w.lo with h | h
    · rw [h]
      exact hv.lo_ne
    · rw [h]
      exact hw.lo_ne
  · show v.hi.max w.hi ≠ _
    rcases max_eq_or v.hi w.hi with h | h
    · rw [h]
      exact hv.hi_ne
    · rw [h]
      exact hw.hi_ne

/-- The smallest window that covers two windows takes its ends from them. -/
theorem WellFormed.union {v w : Window} (hv : v.WellFormed) (hw : w.WellFormed) :
    (v.union w).WellFormed := by
  refine (hv.ordered.union hw.ordered).wellFormed ?_ ?_
  · show (v.lo.min w.lo).isFinite = true
    rcases min_eq_or v.lo w.lo with h | h
    · rw [h]
      exact hv.1
    · rw [h]
      exact hw.1
  · show (v.hi.max w.hi).isFinite = true
    rcases max_eq_or v.hi w.hi with h | h
    · rw [h]
      exact hv.2.1
    · rw [h]
      exact hw.2.1

/-! ## Reading -/

theorem ofTree?_wellFormed {t : Json.Tree} {w : Window} (h : ofTree? t = some w) :
    w.WellFormed := by
  unfold ofTree? at h
  split at h
  · obtain ⟨lo, -, h⟩ := Option.bind_eq_some_iff.1 h
    obtain ⟨hi, -, h⟩ := Option.bind_eq_some_iff.1 h
    cases hmake : make? lo hi with
    | error f =>
      rw [hmake] at h
      cases h
    | ok v =>
      rw [hmake] at h
      cases h
      exact (make?_eq_ok_iff.1 hmake).2
  · cases h

end Window

/-- A preset's window in a well-formed window is well formed. -/
theorem Preset.resolve_wellFormed {full : Window} (h : full.WellFormed) (p : Preset) :
    (p.resolve full).WellFormed := by
  unfold Preset.resolve
  split
  · split
    · split
      · rename_i w hw
        exact (Window.make?_eq_ok_iff.1 hw).2
      · exact h
    · exact h
  · exact h

/-- A preset's window in a window with its ends in order has its ends in order. -/
theorem Preset.resolve_ordered {full : Window} (h : full.Ordered) (p : Preset) :
    (p.resolve full).Ordered := by
  unfold Preset.resolve
  split
  · split
    · split
      · rename_i w hw
        exact (Window.make?_eq_ok_iff.1 hw).2.ordered
      · exact h
    · exact h
  · exact h

end LinkedCharts
