import LinkedCharts.Proofs.Window.Widening

/-!
# The windows of presets

A preset shows the last stretch of the full window if the full window is longer than the preset, and
all of it otherwise. Whether it is longer is read off its rounded span, while the start of the
stretch is the rounded difference of the end and the length. The two never disagree: a length that
reaches over the start is at least the exact span, and a number that is at least the exact span is
at least the rounded one.

Results:
* `Window.last_wellFormed`, `Window.lo_le_sub`: what is shorter than the rounded span fits in.
* `Preset.resolve_of_shorter`, `Preset.resolve_of_not_shorter`: the window of a preset.
* `Preset.Within`: a preset that is no longer than another one.
* `Preset.resolve_anchored`: the window of a preset ends where the full window ends and lies inside
  it, and longer presets have longer windows.
-/

namespace LinkedCharts

open Binary64

/-! ## The last stretch of a window -/

theorem Binary64.place_ofNat (n : Nat) : ∃ k, (ofNat n).place = some k ∧ 0 ≤ k := by
  refine ⟨_, place_round false (n * stepsPerOne) 1, ?_⟩
  rw [signed, if_neg Bool.false_ne_true]
  exact Int.natCast_nonneg _

namespace Window

variable {w : Window} {length : Binary64}

/-- A length below the rounded span of a window is finite, and reaches back no further than to the
    start of the window. -/
theorem places_of_lt_span (h : w.WellFormed) (hlength : ∃ k, length.place = some k ∧ 0 ≤ k)
    (hlt : length < w.span) :
    length.isFinite = true ∧ ∃ a b k, w.lo.place = some a ∧ w.hi.place = some b ∧
      length.place = some k ∧ 0 ≤ k ∧ a ≤ b - k := by
  obtain ⟨a, b, ha, hb, -, hspan, -⟩ := h.ordered.span_place h.1 h.2.1
  obtain ⟨k, hk, hk0⟩ := hlength
  rw [lt_iff_of_place hk hspan] at hlt
  have hlimit := (place_bounds hspan).2
  have hfinite := isFinite_iff_place.2 ⟨k, hk, by omega, by omega⟩
  have hfits : k ≤ b - a := le_of_lt_stepsPlace hfinite hk hlt
  exact ⟨hfinite, a, b, k, ha, hb, hk, hk0, by omega⟩

/-- The last stretch of a window, of a length below the rounded span, does not begin before it. -/
theorem lo_le_sub (h : w.WellFormed) (hlength : ∃ k, length.place = some k ∧ 0 ≤ k)
    (hlt : length < w.span) : w.lo ≤ w.hi - length := by
  obtain ⟨hfinite, a, b, k, ha, hb, hk, -, hfits⟩ := places_of_lt_span h hlength hlt
  rw [le_iff_of_place ha (place_sub h.2.1 hfinite hb hk), ← stepsPlace_of_place h.1 ha]
  exact stepsPlace_mono hfits

theorem last_wellFormed (h : w.WellFormed) (hlength : ∃ k, length.place = some k ∧ 0 ≤ k)
    (hlt : length < w.span) : (Window.mk (w.hi - length) w.hi).WellFormed := by
  obtain ⟨hfinite, a, b, k, ha, hb, hk, hk0, -⟩ := places_of_lt_span h hlength hlt
  have hlow := lo_le_sub h hlength hlt
  have hhigh : w.hi - length ≤ w.hi := by
    rw [le_iff_of_place (place_sub h.2.1 hfinite hb hk) hb]
    calc stepsPlace (b - k) ≤ stepsPlace b := stepsPlace_mono (by omega)
      _ = b := stepsPlace_of_place h.2.1 hb
  exact ⟨isFinite_of_between h.1 h.2.1 hlow hhigh, h.2.1, hhigh⟩

/-- A longer stretch does not begin later. -/
theorem sub_le_sub {x s t : Binary64} (hx : x.isFinite = true) (hs : s.isFinite = true)
    (ht : t.isFinite = true) (hst : s ≤ t) : x - t ≤ x - s := by
  obtain ⟨a, ha, -⟩ := isFinite_iff_place.1 hx
  obtain ⟨j, k, hj, hk, hjk⟩ := exists_places_of_le hst
  rw [le_iff_of_place (place_sub hx ht ha hk) (place_sub hx hs ha hj)]
  exact stepsPlace_mono (by omega)

end Window

/-! ## Presets -/

namespace Preset

variable {p q : Preset} {full : Window} {span : Binary64}

theorem span_place (h : p.span? = some span) : ∃ k, span.place = some k ∧ 0 ≤ k := by
  obtain ⟨n, -, rfl⟩ := Option.map_eq_some_iff.1 h
  exact place_ofNat n

/-- The check of the window that a preset shorter than the full window asks for always succeeds. -/
theorem make?_of_shorter (h : full.WellFormed) (hspan : p.span? = some span)
    (hlt : span < full.span) :
    Window.make? (full.hi - span) full.hi = .ok ⟨full.hi - span, full.hi⟩ :=
  Window.make?_eq_ok_iff.2 ⟨rfl, Window.last_wellFormed h (span_place hspan) hlt⟩

theorem resolve_of_shorter (h : full.WellFormed) (hspan : p.span? = some span)
    (hlt : span < full.span) : p.resolve full = ⟨full.hi - span, full.hi⟩ := by
  unfold resolve
  rw [hspan]
  dsimp only
  rw [if_pos hlt, make?_of_shorter h hspan hlt]

theorem resolve_of_not_shorter (h : ∀ span ∈ p.span?, ¬ span < full.span) :
    p.resolve full = full := by
  unfold resolve
  cases hspan : p.span? with
  | none => rfl
  | some span => exact if_neg (h span hspan)

/-- The window of a preset is the last stretch of the full window, or all of it. -/
theorem resolve_cases (h : full.WellFormed) (p : Preset) :
    (∃ span ∈ p.span?, span < full.span ∧ p.resolve full = ⟨full.hi - span, full.hi⟩) ∨
      (∀ span ∈ p.span?, ¬ span < full.span) ∧ p.resolve full = full := by
  by_cases hshort : ∃ span ∈ p.span?, span < full.span
  · obtain ⟨span, hspan, hlt⟩ := hshort
    exact Or.inl ⟨span, hspan, hlt, resolve_of_shorter h hspan hlt⟩
  · have hlong : ∀ span ∈ p.span?, ¬ span < full.span :=
      fun span hspan hlt => hshort ⟨span, hspan, hlt⟩
    exact Or.inr ⟨hlong, resolve_of_not_shorter hlong⟩

theorem resolve_hi (h : full.WellFormed) (p : Preset) : (p.resolve full).hi = full.hi := by
  rcases resolve_cases h p with ⟨span, -, -, heq⟩ | ⟨-, heq⟩
  · rw [heq]
  · rw [heq]

theorem covers_resolve (h : full.WellFormed) (p : Preset) : full.Covers (p.resolve full) := by
  rcases resolve_cases h p with ⟨span, hspan, hlt, heq⟩ | ⟨-, heq⟩
  · rw [heq]
    exact ⟨Window.lo_le_sub h (span_place hspan) hlt, le_refl h.ordered.hi_ne_nan⟩
  · rw [heq]
    exact h.ordered.covers_self

/-- The first preset is no longer than the second one, where all of the data is the longest. -/
def Within (p q : Preset) : Prop := ∀ t ∈ q.span?, ∃ s ∈ p.span?, s ≤ t

instance (p q : Preset) : Decidable (p.Within q) :=
  inferInstanceAs (Decidable (∀ t ∈ q.span?, ∃ s ∈ p.span?, _))

/-- A preset that is no longer has a window inside that of the other one. -/
theorem resolve_covers_resolve (h : full.WellFormed) (hpq : p.Within q) :
    (q.resolve full).Covers (p.resolve full) := by
  rcases resolve_cases h q with ⟨t, ht, hlt, heq⟩ | ⟨-, heq⟩
  · obtain ⟨s, hs, hst⟩ := hpq t ht
    have hs_lt := lt_of_le_of_lt hst hlt
    obtain ⟨hs_finite, -⟩ := Window.places_of_lt_span h (span_place hs) hs_lt
    obtain ⟨ht_finite, -⟩ := Window.places_of_lt_span h (span_place ht) hlt
    rw [heq, resolve_of_shorter h hs hs_lt]
    exact ⟨Window.sub_le_sub h.2.1 hs_finite ht_finite hst, le_refl h.ordered.hi_ne_nan⟩
  · rw [heq]
    exact covers_resolve h p

-- the presets are listed from the shortest to the longest
example : everyOne.Pairwise Within := by decide +kernel

/-- Where the window of a preset lies in a full window with finite ends in order, however large
    these are and however its span is rounded. It ends where the full window ends, its ends are
    finite and in order, and it lies inside the full window. It is all of the full window if the
    preset has no length or one that is not below the span; otherwise it begins at the rounded
    difference of the end and the length, which the check of windows accepts. A preset that is no
    longer than another one has a window inside that of the other one. -/
theorem resolve_anchored (h : full.WellFormed) (p : Preset) :
    (p.resolve full).hi = full.hi ∧ (p.resolve full).WellFormed ∧ full.Covers (p.resolve full) ∧
    ((∀ span ∈ p.span?, ¬ span < full.span) → p.resolve full = full) ∧
    (∀ span ∈ p.span?, span < full.span → (p.resolve full).lo = full.hi - span ∧
      Window.make? (full.hi - span) full.hi = .ok (p.resolve full)) ∧
    ∀ q : Preset, p.Within q → (q.resolve full).Covers (p.resolve full) := by
  refine ⟨resolve_hi h p, resolve_wellFormed h p, covers_resolve h p, resolve_of_not_shorter, ?_,
    fun q hpq => resolve_covers_resolve h hpq⟩
  intro span hspan hlt
  rw [resolve_of_shorter h hspan hlt]
  exact ⟨rfl, make?_of_shorter h hspan hlt⟩

/-- Everything between the largest numbers. -/
def widest : Window := ⟨.ofBits 0xffefffffffffffff, .ofBits 0x7fefffffffffffff⟩

/-- The span of the widest window is infinite, and no preset is long enough to begin before its
    end. -/
theorem resolve_anchored_widest :
    widest.span = .infinite false ∧ (Preset.second.resolve widest).lo = widest.hi - 1000 ∧
      (Preset.fiveHours.resolve widest).Covers (Preset.second.resolve widest) := by
  have hwell : widest.WellFormed := by decide +kernel
  obtain ⟨-, -, -, -, hlo, hlonger⟩ := resolve_anchored hwell .second
  refine ⟨by decide +kernel, ?_, hlonger .fiveHours (by decide +kernel)⟩
  exact (hlo 1000 rfl (by decide +kernel)).1

end Preset

end LinkedCharts
