import LinkedCharts.Proofs.Json.Checked
import LinkedCharts.Proofs.Series.Maxima
import Mathlib.Order.Bounds.Defs

/-!
# Series that can be reached

A series is made empty or read from a text, gets another name, kind or address, is given samples,
and has samples appended to it. These do not agree on what is in order. Reading and setting sort by
the total order, for which the two zeros are two times; appending compares numbers, for which they
are one. Reading does not ask whether samples are finite; setting and appending do.

The samples of a series are finite and sorted all the same, whatever mixture of these it has come
from. Between finite times the total order refines the other one, and so the last sample is the
newest by both.

Results:
* `Series.Reachable`: what a series can be.
* `Series.Reachable.wellFormed`: its samples are finite and sorted.
* `Series.Ascending.isGreatest_last`: the last sample is the newest.
* `Series.setSamples_stable`: setting samples sorts them, and does nothing else to them.
* `Series.reachable_ordered`: what holds of all series that can be reached.
-/

namespace LinkedCharts.Series

open Binary64

variable {s : Series}

/-! ## Reaching a series -/

/-- What can become of a series. -/
inductive Reachable : Series → Prop
  | empty (name : String) (kind : SeriesKind) : Reachable (empty name kind none)
  /-- whatever the text has for samples -/
  | read (text : String) (s : Series) (h : (Json.Tree.parse? text).bind ofTree? = some s) :
      Reachable s
  /-- all but the samples is free to be changed -/
  | relabel (s : Series) (name : String) (kind : SeriesKind) (url : Option String)
      (h : Reachable s) : Reachable ⟨name, kind, url, s.samples⟩
  | setSamples (s s' : Series) (xs : List Sample) (h : Reachable s)
      (hset : s.setSamples xs = .ok s') : Reachable s'
  /-- a sample that is not accepted leaves the series as it is -/
  | append (s : Series) (x : Sample) (h : Reachable s) : Reachable (s.append x)

namespace Reachable

theorem wellFormed (h : s.Reachable) : s.WellFormed := by
  induction h with
  | empty name kind => exact empty_wellFormed name kind none
  | read text s h =>
    obtain ⟨t, ht, hs⟩ := Option.bind_eq_some_iff.1 h
    exact ofTree?_wellFormed (Json.Tree.parse?_finite ht) hs
  | relabel s name kind url _ ih => exact ⟨ih.finite, ih.sorted⟩
  | setSamples s s' xs _ hset _ => exact setSamples_wellFormed hset
  | append s x _ ih => exact ih.append x

theorem appendAll (h : s.Reachable) (batch : List Sample) : (s.appendAll batch).Reachable := by
  induction batch generalizing s with
  | nil => exact h
  | cons x rest ih => exact ih (h.append s x)

end Reachable

/-! ## The newest sample -/

namespace Ascending

/-- Samples in the total order are in the order of numbers, if they are finite. -/
theorem pairwise_le (h : s.Ascending) :
    s.samples.toList.Pairwise fun x y => x.time.rank ≤ y.time.rank ∧ x.time ≤ y.time := by
  refine h.sorted.imp_of_mem fun {x y} hx hy hrank => ⟨hrank, ?_⟩
  exact le_of_rank_le (h.finite x (Array.mem_toList_iff.1 hx))
    (h.finite y (Array.mem_toList_iff.1 hy)) hrank

/-- The last time is the newest that is held. -/
theorem isGreatest_last (h : s.Ascending) {last : Binary64} (hlast : s.lastTime? = some last) :
    IsGreatest (Sample.times s.samples.toList) last := by
  constructor
  · obtain ⟨x, hx, rfl⟩ := Option.map_eq_some_iff.1 hlast
    exact ⟨x, Array.mem_toList_iff.2 (Array.mem_of_back? hx), rfl⟩
  · rintro t ⟨x, hx, rfl⟩
    exact h.le_last hlast (Array.mem_toList_iff.1 hx)

/-- What is newer than the last sample is newer than all. -/
theorem lt_of_mem_maxima (h : s.Ascending) {batch : List Sample} {x y : Sample}
    (hx : x ∈ s.samples) (hy : y ∈ s.maxima batch) : x.time < y.time := by
  have hne : s.samples ≠ #[] := Array.ne_empty_of_mem hx
  obtain ⟨last, hlast⟩ := Option.ne_none_iff_exists'.1 (mt lastTime?_eq_none_iff.1 hne)
  exact lt_of_le_of_lt (h.le_last hlast hx) (Series.lt_of_mem_maxima hy last hlast)

end Ascending

/-! ## Setting samples -/

/-- Finite samples are accepted. What is held then is made of them alone, and those of the same time
    are in the order in which they came. -/
theorem setSamples_stable (s : Series) {xs : List Sample} (hfinite : ∀ x ∈ xs, x.IsFinite) :
    ∃ samples : Array Sample, s.setSamples xs = .ok { s with samples } ∧
      samples.toList.Perm xs ∧
      ∀ t, samples.toList.filter (·.time = t) = xs.filter (·.time = t) := by
  refine ⟨(sorted xs).toArray, if_pos hfinite, ?_, fun t => ?_⟩
  · exact sorted_perm xs
  · exact filter_sorted xs t

/-! ## All of it -/

/-- A series that can be reached holds finite samples. They are in the total order of their times
    and in the order of numbers, and the last time is the greatest by both; there is none just if
    the series is empty. Finite samples can be set, which sorts them and leaves samples of the same
    time, where the two zeros are not the same, in the order in which they came. Samples that are
    offered leave what is held where it is: behind it come those that set a new maximum, each of
    them newer than all before it. -/
theorem reachable_ordered (h : s.Reachable) :
    (∀ x ∈ s.samples, x.IsFinite) ∧
    (s.samples.toList.Pairwise fun x y => x.time.rank ≤ y.time.rank ∧ x.time ≤ y.time) ∧
    (s.lastTime? = none ↔ s.samples = #[]) ∧
    (∀ last ∈ s.lastTime?, IsGreatest (Sample.times s.samples.toList) last ∧
      ∀ x ∈ s.samples, x.time.rank ≤ last.rank) ∧
    (∀ xs : List Sample, (∀ x ∈ xs, x.IsFinite) →
      ∃ samples : Array Sample, s.setSamples xs = .ok { s with samples } ∧
        samples.toList.Perm xs ∧
        ∀ t, samples.toList.filter (·.time = t) = xs.filter (·.time = t)) ∧
    ∀ batch : List Sample,
      s.appendAll batch = { s with samples := s.samples ++ (s.maxima batch).toArray } ∧
      ((s.maxima batch).Pairwise fun x y => x.time < y.time) ∧
      ∀ x ∈ s.samples, ∀ y ∈ s.maxima batch, x.time < y.time := by
  have hs := h.wellFormed
  refine ⟨hs.finite, hs.ascending.pairwise_le, lastTime?_eq_none_iff, fun last hlast => ?_,
    fun xs hxs => s.setSamples_stable hxs, fun batch => ?_⟩
  · exact ⟨hs.ascending.isGreatest_last hlast, fun x hx => hs.sorted.rank_le_last hlast hx⟩
  · have hdated := hs.ascending.dated
    exact ⟨appendAll_eq hdated batch, maxima_pairwise hdated batch,
      fun x hx y hy => hs.ascending.lt_of_mem_maxima hx hy⟩

/-- Two samples of the three that were appended to an empty series; the middle one is at the other
    zero. -/
def bothZeros : Series := (empty "cpu" .line none).appendAll [⟨0, 1⟩, ⟨-0, 2⟩, ⟨2000, 3⟩]

theorem reachable_ordered_zeros :
    IsGreatest (Sample.times bothZeros.samples.toList) 2000 ∧
    (∃ samples : Array Sample,
      bothZeros.setSamples [⟨0, 4⟩, ⟨-0, 5⟩, ⟨0, 6⟩] = .ok { bothZeros with samples } ∧
        samples.toList.filter (·.time = 0) = [⟨0, 4⟩, ⟨0, 6⟩]) ∧
    (bothZeros.appendAll [⟨2000, 7⟩, ⟨3000, 8⟩, ⟨2500, 9⟩]).samples =
      bothZeros.samples ++ #[⟨3000, 8⟩] := by
  have hreached : bothZeros.Reachable := (Reachable.empty "cpu" .line).appendAll _
  obtain ⟨-, -, -, hlast, hset, hoffered⟩ := reachable_ordered hreached
  obtain ⟨samples, hsamples, -, hsame⟩ := hset [⟨0, 4⟩, ⟨-0, 5⟩, ⟨0, 6⟩] (by decide +kernel)
  refine ⟨(hlast 2000 (by decide +kernel)).1, ⟨samples, hsamples, ?_⟩, ?_⟩
  · rw [hsame]
    decide +kernel
  · have hmaxima : bothZeros.maxima [⟨2000, 7⟩, ⟨3000, 8⟩, ⟨2500, 9⟩] = [⟨3000, 8⟩] := by
      decide +kernel
    rw [(hoffered _).1, hmaxima]

end LinkedCharts.Series
