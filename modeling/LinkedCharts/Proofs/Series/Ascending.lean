import LinkedCharts.Proofs.Series
import LinkedCharts.Window
import Mathlib.Data.Set.Defs

/-!
# Series in ascending order

However a series is made, its samples are sorted by time. As long as all times are finite, samples
that are appended keep the order, and then the first and the last sample say how far the series
reaches.

Results:
* `Sample.times`: the times of some samples, as a set.
* `Series.Sorted`, `Series.setSamples_sorted`, `Series.ofTree?_sorted`: what is set or read is
  sorted.
* `Series.sorted_perm`, `Series.filter_sorted`: sorting is stable.
* `Series.Ascending`, `Series.Ascending.append`: with finite times, appending keeps the order.
* `Series.Ascending.contained`: a window around the first and the last time holds all samples.
-/

namespace LinkedCharts

/-- The times of some samples. -/
def Sample.times (xs : List Sample) : Set Binary64 := {t | ∃ x ∈ xs, x.time = t}

namespace Series

variable {s s' : Series}

/-- The time of the oldest sample. -/
def firstTime? (s : Series) : Option Binary64 := s.samples[0]?.map (·.time)

theorem firstTime?_eq_none_iff : s.firstTime? = none ↔ s.samples = #[] := by
  simp [firstTime?]

theorem lastTime?_eq_none_iff : s.lastTime? = none ↔ s.samples = #[] := by
  simp [lastTime?]

theorem append_samples {x : Sample} (h : s.Accepts x) :
    (s.append x).samples = s.samples.push x := by
  unfold append
  rw [if_pos h]

theorem append_of_not_accepts {x : Sample} (h : ¬ s.Accepts x) : s.append x = s := if_neg h

/-- Appending leaves the oldest sample where it is. -/
theorem append_firstTime? (hne : s.samples ≠ #[]) (x : Sample) :
    (s.append x).firstTime? = s.firstTime? := by
  have hsize : 0 < s.samples.size := Array.size_pos_iff.2 hne
  unfold append
  split
  · show (s.samples.push x)[0]?.map _ = _
    rw [Array.getElem?_push_lt hsize, ← Array.getElem?_eq_getElem hsize]
    rfl
  · rfl

/-! ## Sorted series -/

/-- The samples are in the total order of their times. -/
def Sorted (s : Series) : Prop :=
  s.samples.toList.Pairwise fun x y => x.time.rank ≤ y.time.rank

instance (s : Series) : Decidable s.Sorted := inferInstanceAs (Decidable (List.Pairwise _ _))

theorem rankLe_trans (x y z : Sample) (hxy : decide (x.time.rank ≤ y.time.rank) = true)
    (hyz : decide (y.time.rank ≤ z.time.rank) = true) :
    decide (x.time.rank ≤ z.time.rank) = true := by
  simp only [decide_eq_true_eq] at *
  omega

theorem rankLe_total (x y : Sample) :
    (decide (x.time.rank ≤ y.time.rank) || decide (y.time.rank ≤ x.time.rank)) = true := by
  simp only [Bool.or_eq_true, decide_eq_true_eq]
  omega

theorem sorted_pairwise (xs : List Sample) :
    (sorted xs).Pairwise fun x y => x.time.rank ≤ y.time.rank := by
  have h : (sorted xs).Pairwise fun x y => decide (x.time.rank ≤ y.time.rank) :=
    List.pairwise_mergeSort rankLe_trans rankLe_total xs
  exact h.imp fun hab => of_decide_eq_true hab

/-- Sorting changes nothing but the order. -/
theorem sorted_perm (xs : List Sample) : (sorted xs).Perm xs := List.mergeSort_perm xs _

/-- Samples of one time keep their order. -/
theorem filter_sorted (xs : List Sample) (t : Binary64) :
    (sorted xs).filter (·.time = t) = xs.filter (·.time = t) := by
  have hsame : (xs.filter (·.time = t)).Pairwise fun x y =>
      decide (x.time.rank ≤ y.time.rank) = true := by
    refine List.pairwise_of_forall_mem_list fun x hx y hy => ?_
    rw [of_decide_eq_true (List.mem_filter.1 hx).2, of_decide_eq_true (List.mem_filter.1 hy).2]
    exact decide_eq_true (Int.le_refl _)
  have hsub : (xs.filter (·.time = t)).Sublist (sorted xs) :=
    List.sublist_mergeSort rankLe_trans rankLe_total hsame List.filter_sublist
  have hboth := hsub.filter (·.time = t)
  simp only [List.filter_filter, Bool.and_self] at hboth
  exact (hboth.eq_of_length ((sorted_perm xs).filter _).length_eq.symm).symm

theorem empty_sorted (name : String) (kind : SeriesKind) (url : Option String) :
    (empty name kind url).Sorted := List.Pairwise.nil

theorem setSamples_sorted {xs : List Sample} (h : s.setSamples xs = .ok s') : s'.Sorted := by
  unfold setSamples at h
  split at h
  · cases h
    exact sorted_pairwise xs
  · cases h

theorem ofTree?_sorted {t : Json.Tree} (h : ofTree? t = some s) : s.Sorted := by
  unfold ofTree? at h
  split at h
  · obtain ⟨name, -, h⟩ := Option.bind_eq_some_iff.1 h
    obtain ⟨kind, -, h⟩ := Option.bind_eq_some_iff.1 h
    obtain ⟨url, -, h⟩ := Option.bind_eq_some_iff.1 h
    obtain ⟨data, -, h⟩ := Option.bind_eq_some_iff.1 h
    cases h
    exact sorted_pairwise data
  · cases h

/-- In the total order, no sample comes after the last one. -/
theorem Sorted.rank_le_last (h : s.Sorted) {last : Binary64} (hlast : s.lastTime? = some last)
    {x : Sample} (hx : x ∈ s.samples) : x.time.rank ≤ last.rank := by
  obtain ⟨y, hy, rfl⟩ := Option.map_eq_some_iff.1 hlast
  rw [← Array.getLast?_toList] at hy
  obtain ⟨before, hsplit⟩ := List.getLast?_eq_some_iff.1 hy
  rw [Sorted, hsplit, List.pairwise_append] at h
  rw [← Array.mem_toList_iff, hsplit] at hx
  rcases List.mem_append.1 hx with hbefore | hself
  · exact h.2.2 x hbefore y (List.mem_singleton.2 rfl)
  · obtain rfl := List.mem_singleton.1 hself
    exact Int.le_refl _

/-! ## Appending -/

/-- The samples are sorted, and all their times are finite. -/
structure Ascending (s : Series) : Prop where
  finite : ∀ x ∈ s.samples, x.time.isFinite = true
  sorted : s.Sorted

namespace Ascending

/-- No sample comes after the last one. -/
theorem le_last (h : s.Ascending) {last : Binary64} (hlast : s.lastTime? = some last)
    {x : Sample} (hx : x ∈ s.samples) : x.time ≤ last := by
  have hrank := h.sorted.rank_le_last hlast hx
  obtain ⟨y, hy, rfl⟩ := Option.map_eq_some_iff.1 hlast
  exact Binary64.le_of_rank_le (h.finite x hx) (h.finite y (Array.mem_of_back? hy)) hrank

/-- No sample comes before the first one. -/
theorem first_le (h : s.Ascending) {first : Binary64} (hfirst : s.firstTime? = some first)
    {x : Sample} (hx : x ∈ s.samples) : first ≤ x.time := by
  obtain ⟨y, hy, rfl⟩ := Option.map_eq_some_iff.1 hfirst
  have hfinite := h.finite y (Array.mem_of_getElem? hy)
  rw [← Array.getElem?_toList, ← List.head?_eq_getElem?] at hy
  obtain ⟨rest, hsplit⟩ := List.head?_eq_some_iff.1 hy
  have hsorted := h.sorted
  rw [Sorted, hsplit, List.pairwise_cons] at hsorted
  have hmem := hx
  rw [← Array.mem_toList_iff, hsplit] at hmem
  rcases List.mem_cons.1 hmem with rfl | hrest
  · exact Binary64.le_refl (Binary64.ne_nan_of_isFinite hfinite)
  · exact Binary64.le_of_rank_le hfinite (h.finite x hx) (hsorted.1 x hrest)

/-- A window that holds the first and the last time of a series holds all of its samples. -/
theorem contained (h : s.Ascending) {w : Window}
    (hfirst : ∀ first ∈ s.firstTime?, w.Contains first)
    (hlast : ∀ last ∈ s.lastTime?, w.Contains last) {x : Sample} (hx : x ∈ s.samples) :
    w.Contains x.time := by
  have hne : s.samples ≠ #[] := Array.ne_empty_of_mem hx
  obtain ⟨first, hf⟩ := Option.ne_none_iff_exists'.1 (mt firstTime?_eq_none_iff.1 hne)
  obtain ⟨last, hl⟩ := Option.ne_none_iff_exists'.1 (mt lastTime?_eq_none_iff.1 hne)
  exact ⟨Binary64.le_trans (hfirst first hf).1 (h.first_le hf hx),
    Binary64.le_trans (h.le_last hl hx) (hlast last hl).2⟩

/-- A sample that is accepted is finite and comes after all others. -/
theorem append (h : s.Ascending) (x : Sample) : (s.append x).Ascending := by
  unfold Series.append
  split
  · rename_i haccepts
    obtain ⟨hx, hnew⟩ := haccepts
    constructor
    · intro y hy
      rcases Array.mem_push.1 hy with hy | rfl
      · exact h.finite y hy
      · exact hx.1
    · show (s.samples.push x).toList.Pairwise _
      rw [Array.toList_push, List.pairwise_append]
      refine ⟨h.sorted, List.pairwise_singleton _ _, ?_⟩
      intro y hy z hz
      rw [List.mem_singleton.1 hz]
      rw [Array.mem_toList_iff] at hy
      have hne : s.samples ≠ #[] := Array.ne_empty_of_mem hy
      obtain ⟨last, hl⟩ := Option.ne_none_iff_exists'.1 (mt lastTime?_eq_none_iff.1 hne)
      have hlate : ¬ x.time ≤ y.time :=
        fun hle => hnew last hl (Binary64.le_trans hle (h.le_last hl hy))
      exact Binary64.rank_le_of_lt ((Binary64.not_le_iff_lt (Binary64.ne_nan_of_isFinite hx.1)
        (Binary64.ne_nan_of_isFinite (h.finite y hy))).1 hlate)
  · exact h

end Ascending

end Series

end LinkedCharts
