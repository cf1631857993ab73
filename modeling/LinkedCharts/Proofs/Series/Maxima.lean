import LinkedCharts.Proofs.Series.Ascending

/-!
# What a series keeps of a batch

Samples that are offered in any order are kept or dropped one by one, and what is dropped depends on
what was kept before. The outcome can be told from the batch alone: a sample is kept if it is
finite, newer than what the series held before the batch, and newer than every finite sample before
it in the batch. Samples that are not finite move nothing.

Results:
* `Series.IsMaximum`, `Series.maxima`: the samples of a batch that set a new maximum.
* `Series.isMaximum_iff`: these are the ones that the series accepts in their turn.
* `Series.appendAll_eq`: the series after a batch is the old one followed by the maxima.
* `Series.maxima_pairwise`: the maxima of a batch are in strictly ascending order.
* `Series.maxima_of_isLog`: in a batch in order, all that is newer is a maximum.
* `Series.maxima_again`: the same batch once more has no maxima.
-/

namespace LinkedCharts.Series

open Binary64

variable {s : Series} {x : Sample} {batch : List Sample}

/-- The newest sample held, if there is one, has a time. -/
def Dated (s : Series) : Prop := ∀ last ∈ s.lastTime?, last ≠ nan

instance (s : Series) : Decidable s.Dated :=
  inferInstanceAs (Decidable (∀ last ∈ s.lastTime?, _))

/-- A series in ascending order is dated, and no other series is built or read. -/
theorem Ascending.dated (h : s.Ascending) : s.Dated := by
  intro last hlast
  obtain ⟨x, hx, rfl⟩ := Option.map_eq_some_iff.1 hlast
  exact ne_nan_of_isFinite (h.finite x (Array.mem_of_back? hx))

/-! ## One sample -/

/-- What is finite and dropped is not newer than what is held. -/
theorem exists_le_of_not_accepts (h : ¬ s.Accepts x) (hx : x.IsFinite) :
    ∃ last ∈ s.lastTime?, x.time ≤ last := by
  apply Classical.byContradiction
  intro hnone
  exact h ⟨hx, fun last hlast hle => hnone ⟨last, hlast, hle⟩⟩

theorem append_lastTime? (h : s.Accepts x) : (s.append x).lastTime? = some x.time := by
  rw [lastTime?, append_samples h, Array.back?_push]
  rfl

/-- A finite sample is accepted just if it is newer than what is held. -/
theorem Dated.accepts_iff (h : s.Dated) :
    s.Accepts x ↔ x.IsFinite ∧ ∀ last ∈ s.lastTime?, last < x.time := by
  refine and_congr_right fun hx => forall₂_congr fun last hlast => ?_
  exact not_le_iff_lt (ne_nan_of_isFinite hx.1) (h last hlast)

theorem Dated.append (h : s.Dated) (x : Sample) : (s.append x).Dated := by
  by_cases hx : s.Accepts x
  · intro last hlast
    rw [append_lastTime? hx] at hlast
    cases hlast
    exact ne_nan_of_isFinite hx.1.1
  · rw [append_of_not_accepts hx]
    exact h

/-! ## Maxima -/

/-- After these samples, the sample sets a new maximum: it is finite, newer than what is held, and
    newer than all finite samples before it. -/
def IsMaximum (s : Series) (before : List Sample) (x : Sample) : Prop :=
  x.IsFinite ∧ (∀ last ∈ s.lastTime?, last < x.time) ∧ ∀ y ∈ before, y.IsFinite → y.time < x.time

instance (s : Series) (before : List Sample) (x : Sample) : Decidable (s.IsMaximum before x) :=
  inferInstanceAs (Decidable (_ ∧ _ ∧ _))

/-- The samples of a batch that set a new maximum, in the order of the batch. -/
def maxima (s : Series) (batch : List Sample) : List Sample :=
  (batch.zipIdx.filter fun (x, i) => s.IsMaximum (batch.take i) x).map Prod.fst

/-- Offering a sample first is the same as having it in front of the batch. -/
theorem isMaximum_cons (h : s.Dated) (y : Sample) (before : List Sample) :
    s.IsMaximum (y :: before) x ↔ (s.append y).IsMaximum before x := by
  unfold IsMaximum
  rw [List.forall_mem_cons]
  refine and_congr_right fun _ => ?_
  by_cases hy : s.Accepts y
  · -- the bound moves up to the sample in front
    obtain ⟨hfinite, hnew⟩ := h.accepts_iff.1 hy
    rw [append_lastTime? hy]
    constructor
    · rintro ⟨-, hyx, hrest⟩
      refine ⟨?_, hrest⟩
      rintro last ⟨⟩
      exact hyx hfinite
    · rintro ⟨hlast, hrest⟩
      have hyx : y.time < x.time := hlast _ rfl
      exact ⟨fun last hl => lt_of_le_of_lt (le_of_lt (hnew last hl)) hyx, fun _ => hyx, hrest⟩
  · -- the bound stays, and a finite sample in front is not above it
    rw [append_of_not_accepts hy]
    refine and_congr_right fun hlast => and_iff_right fun hfinite => ?_
    obtain ⟨last, hl, hle⟩ := exists_le_of_not_accepts hy hfinite
    exact lt_of_le_of_lt hle (hlast last hl)

/-- A sample sets a new maximum just if the series accepts it after the samples before it. -/
theorem isMaximum_iff (h : s.Dated) (before : List Sample) :
    s.IsMaximum before x ↔ (s.appendAll before).Accepts x := by
  induction before generalizing s with
  | nil =>
    rw [IsMaximum, ← and_assoc, ← h.accepts_iff]
    exact and_iff_left (List.forall_mem_nil _)
  | cons y rest ih =>
    rw [isMaximum_cons h, ih (h.append y)]
    rfl

theorem maxima_cons (h : s.Dated) (x : Sample) (rest : List Sample) :
    s.maxima (x :: rest) = (if s.Accepts x then [x] else []) ++ (s.append x).maxima rest := by
  have hrest : ∀ p : Sample × Nat, s.IsMaximum ((x :: rest).take (p.2 + 1)) p.1 ↔
      (s.append x).IsMaximum (rest.take p.2) p.1 := fun p => isMaximum_cons h x _
  have hfirst : s.IsMaximum ((x :: rest).take 0) x ↔ s.Accepts x := isMaximum_iff h []
  unfold maxima
  rw [List.zipIdx_cons, List.zipIdx_succ]
  simp only [List.filter_cons, List.filter_map, hfirst, Function.comp_def, hrest,
    decide_eq_true_iff]
  split
  · simp
  · simp

/-- The maxima are newer than what is held. -/
theorem lt_of_mem_maxima (h : x ∈ s.maxima batch) : ∀ last ∈ s.lastTime?, last < x.time := by
  obtain ⟨⟨y, i⟩, hy, rfl⟩ := List.mem_map.1 h
  exact (of_decide_eq_true (List.mem_filter.1 hy).2).2.1

/-- Every maximum is newer than the ones before it. -/
theorem maxima_pairwise (h : s.Dated) (batch : List Sample) :
    (s.maxima batch).Pairwise fun x y => x.time < y.time := by
  induction batch generalizing s with
  | nil => exact List.Pairwise.nil
  | cons x rest ih =>
    have hrest := ih (h.append x)
    rw [maxima_cons h]
    by_cases hx : s.Accepts x
    · rw [if_pos hx]
      exact List.pairwise_cons.2
        ⟨fun y hy => lt_of_mem_maxima hy x.time (append_lastTime? hx), hrest⟩
    · rw [if_neg hx]
      exact hrest

/-- In a batch in order, all samples that are newer than what is held are maxima. -/
theorem maxima_of_isLog (s : Series) (h : IsLog batch) :
    s.maxima batch = batch.filter fun x => ∀ last ∈ s.lastTime?, last < x.time := by
  have hmaximum : ∀ p ∈ batch.zipIdx, s.IsMaximum (batch.take p.2) p.1 ↔
      ∀ last ∈ s.lastTime?, last < p.1.time := by
    rintro ⟨x, i⟩ hp
    have hget : batch[i]? = some x := List.mem_zipIdx_iff_getElem?.1 hp
    obtain ⟨hi, rfl⟩ := List.getElem?_eq_some_iff.1 hget
    refine ⟨fun hmax => hmax.2.1, fun hnew => ⟨h.finite _ (List.getElem_mem hi), hnew, ?_⟩⟩
    intro y hy _
    obtain ⟨j, hj, rfl⟩ := List.mem_take_iff_getElem.1 hy
    exact h.lt_of_lt (by omega) hi (by omega)
  calc s.maxima batch
      = (batch.zipIdx.filter fun p => ∀ last ∈ s.lastTime?, last < p.1.time).map Prod.fst := by
        unfold maxima
        rw [List.filter_congr fun p hp => decide_eq_decide.2 (hmaximum p hp)]
    _ = (batch.zipIdx.map Prod.fst).filter fun x => ∀ last ∈ s.lastTime?, last < x.time := by
        rw [List.filter_map]
        rfl
    _ = batch.filter fun x => ∀ last ∈ s.lastTime?, last < x.time := by
        rw [List.zipIdx_map_fst]

/-! ## Batches -/

/-- The series after a batch is the old one followed by the maxima of the batch. -/
theorem appendAll_eq (h : s.Dated) (batch : List Sample) :
    s.appendAll batch = { s with samples := s.samples ++ (s.maxima batch).toArray } := by
  induction batch generalizing s with
  | nil => simp [appendAll, maxima]
  | cons x rest ih =>
    rw [maxima_cons h]
    show (s.append x).appendAll rest = _
    rw [ih (h.append x)]
    by_cases hx : s.Accepts x
    · have happend : s.append x = { s with samples := s.samples.push x } := if_pos hx
      rw [if_pos hx, happend]
      simp
    · rw [if_neg hx, append_of_not_accepts hx, List.nil_append]

theorem Dated.appendAll (h : s.Dated) (batch : List Sample) : (s.appendAll batch).Dated := by
  induction batch generalizing s with
  | nil => exact h
  | cons x rest ih => exact ih (h.append x)

/-! ## The same batch again -/

/-- What is dropped is also dropped later. -/
theorem not_accepts_append (h : ¬ s.Accepts x) (y : Sample) : ¬ (s.append y).Accepts x := by
  by_cases hy : s.Accepts y
  · intro hx
    obtain ⟨last, hlast, hle⟩ := exists_le_of_not_accepts h hx.1
    have hlate : last < y.time :=
      (not_le_iff_lt (ne_nan_of_isFinite hy.1.1) (ne_nan_of_le hle).2).1 (hy.2 last hlast)
    exact hx.2 _ (append_lastTime? hy) (le_trans hle (le_of_lt hlate))
  · rw [append_of_not_accepts hy]
    exact h

theorem not_accepts_appendAll (h : ¬ s.Accepts x) (batch : List Sample) :
    ¬ (s.appendAll batch).Accepts x := by
  induction batch generalizing s with
  | nil => exact h
  | cons y rest ih => exact ih (not_accepts_append h y)

/-- What was offered is not accepted again. -/
theorem append_not_accepts (s : Series) (x : Sample) : ¬ (s.append x).Accepts x := by
  by_cases hx : s.Accepts x
  · intro hagain
    exact hagain.2 _ (append_lastTime? hx) (le_refl (ne_nan_of_isFinite hx.1.1))
  · rw [append_of_not_accepts hx]
    exact hx

theorem appendAll_not_accepts (s : Series) (hx : x ∈ batch) :
    ¬ (s.appendAll batch).Accepts x := by
  induction batch generalizing s with
  | nil => cases hx
  | cons y rest ih =>
    rcases List.mem_cons.1 hx with rfl | hrest
    · exact not_accepts_appendAll (append_not_accepts s x) rest
    · exact ih (s.append y) hrest

/-- A batch of which nothing is accepted has no maxima. -/
theorem maxima_eq_nil (h : s.Dated) (hbatch : ∀ x ∈ batch, ¬ s.Accepts x) :
    s.maxima batch = [] := by
  induction batch with
  | nil => rfl
  | cons x rest ih =>
    have hx := hbatch x List.mem_cons_self
    rw [maxima_cons h, if_neg hx, append_of_not_accepts hx, List.nil_append]
    exact ih fun y hy => hbatch y (List.mem_cons_of_mem x hy)

theorem maxima_again (h : s.Dated) (batch : List Sample) :
    (s.appendAll batch).maxima batch = [] :=
  maxima_eq_nil (h.appendAll batch) fun _ => appendAll_not_accepts s

end LinkedCharts.Series
