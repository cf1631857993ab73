import LinkedCharts.Proofs.Series.Ascending

/-!
# What a series can be

A series starts empty, is given an address, is given samples that are checked and sorted, and has
samples appended. In whatever order that happens, its samples are finite and in the order of their
times, so that sorting them once more changes nothing: they could be set again as they are.

Results:
* `Series.WellFormed`: the samples are finite and sorted.
* `Series.sorted_eq_self`: samples in order stay as they are when they are sorted.
* `Series.setSamples_self_iff`: the well-formed series are those whose own samples can be set.
* `Series.Built`, `Series.Built.wellFormed`: what the operations of a series make of it.
-/

namespace LinkedCharts

namespace Series

variable {s s' : Series}

/-- The samples are finite and in the total order of their times. -/
structure WellFormed (s : Series) : Prop where
  finite : ∀ x ∈ s.samples, x.IsFinite
  sorted : s.Sorted

instance (s : Series) : Decidable s.WellFormed :=
  decidable_of_iff ((∀ x ∈ s.samples, x.IsFinite) ∧ s.Sorted)
    ⟨fun h => ⟨h.1, h.2⟩, fun h => ⟨h.finite, h.sorted⟩⟩

theorem WellFormed.ascending (h : s.WellFormed) : s.Ascending :=
  ⟨fun x hx => (h.finite x hx).1, h.sorted⟩

/-! ## Sorting -/

theorem mem_sorted {xs : List Sample} {x : Sample} : x ∈ sorted xs ↔ x ∈ xs :=
  List.mem_mergeSort

/-- Samples in order stay as they are. -/
theorem sorted_eq_self {xs : List Sample}
    (h : xs.Pairwise fun x y => x.time.rank ≤ y.time.rank) : sorted xs = xs :=
  List.mergeSort_of_pairwise (h.imp fun hxy => decide_eq_true hxy)

theorem Sorted.sorted_eq (h : s.Sorted) : (sorted s.samples.toList).toArray = s.samples := by
  rw [sorted_eq_self h]

/-! ## Setting samples -/

theorem setSamples_wellFormed {xs : List Sample} (h : s.setSamples xs = .ok s') :
    s'.WellFormed := by
  refine ⟨?_, setSamples_sorted h⟩
  unfold setSamples at h
  split at h
  · rename_i hfinite
    cases h
    intro x hx
    exact hfinite x (mem_sorted.1 (List.mem_toArray.1 hx))
  · cases h

/-- The well-formed series are those that setting their own samples accepts, and leaves as they
    are. -/
theorem setSamples_self_iff : s.setSamples s.samples.toList = .ok s ↔ s.WellFormed := by
  refine ⟨setSamples_wellFormed, fun h => ?_⟩
  unfold setSamples
  rw [if_pos fun x hx => h.finite x (Array.mem_toList_iff.1 hx), h.sorted.sorted_eq]

/-! ## Building -/

/-- What becomes of an empty series by its operations. -/
inductive Built : Series → Prop
  | empty (name : String) (kind : SeriesKind) : Built (empty name kind none)
  | withUrl (s : Series) (url : String) (h : Built s) : Built { s with url := some url }
  | setSamples (s s' : Series) (xs : List Sample) (h : Built s) (hset : s.setSamples xs = .ok s') :
      Built s'
  | append (s : Series) (x : Sample) (h : Built s) : Built (s.append x)

theorem WellFormed.append (h : s.WellFormed) (x : Sample) : (s.append x).WellFormed := by
  refine ⟨fun y hy => ?_, (h.ascending.append x).sorted⟩
  by_cases haccepts : s.Accepts x
  · rw [append_samples haccepts] at hy
    rcases Array.mem_push.1 hy with hy | rfl
    · exact h.finite y hy
    · exact haccepts.1
  · rw [append_of_not_accepts haccepts] at hy
    exact h.finite y hy

theorem empty_wellFormed (name : String) (kind : SeriesKind) (url : Option String) :
    (empty name kind url).WellFormed :=
  ⟨fun _ hx => absurd hx (Array.not_mem_empty _), empty_sorted name kind url⟩

theorem Built.wellFormed (h : s.Built) : s.WellFormed := by
  induction h with
  | empty name kind => exact empty_wellFormed name kind none
  | withUrl s url _ ih => exact ⟨ih.finite, ih.sorted⟩
  | setSamples s s' xs _ hset _ => exact setSamples_wellFormed hset
  | append s x _ ih => exact ih.append x

end Series

end LinkedCharts
