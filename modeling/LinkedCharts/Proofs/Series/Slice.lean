import LinkedCharts.Proofs.Series.Ascending
import LinkedCharts.Series.Slice

/-!
# Cutting a series to a window

Samples in ascending order are cut to a window by two binary searches. A search halves a stretch
around the place it looks for, which is known beforehand: it is the number of samples that satisfy
the condition, since these come first. So the cut is what a filter keeps.

Results:
* `Series.Leads`: the samples that satisfy a condition come first.
* `Series.partitionPoint_eq`: a search finds how many samples satisfy its condition.
* `Series.contains_iff_between`: the samples in the window lie between what the searches find.
* `Series.inWindow_toList`, `Series.inWindow_exact`: the cut is the filter, and its bounds are in
  range.
* `Series.Ascending.chronological`: the series that this applies to.
-/

namespace LinkedCharts.Series

open Binary64

/-! ## Samples that come first -/

/-- A sample that satisfies the condition has none before it that does not. -/
def Leads (p : Sample → Bool) (xs : List Sample) : Prop := xs.Pairwise fun x y => p y → p x

variable {p : Sample → Bool} {xs : List Sample}

/-- The samples that satisfy the condition are the first ones, and so is their number. -/
theorem Leads.getElem_iff (h : Leads p xs) {i : Nat} (hi : i < xs.length) :
    p xs[i] = true ↔ i < xs.countP p := by
  induction xs generalizing i with
  | nil => cases hi
  | cons x rest ih =>
    obtain ⟨hx, hrest⟩ := List.pairwise_cons.1 h
    rw [List.countP_cons]
    cases i with
    | zero =>
      rw [List.getElem_cons_zero]
      by_cases hp : p x = true
      · simp [hp]
      · -- no later sample satisfies the condition either
        have hnone : rest.countP p = 0 := List.countP_eq_zero.2 fun y hy hy' => hp (hx y hy hy')
        simp [hp, hnone]
    | succ k =>
      have hk : k < rest.length := Nat.lt_of_succ_lt_succ hi
      rw [List.getElem_cons_succ, ih hrest hk]
      by_cases hp : p x = true
      · rw [if_pos hp]
        omega
      · have hnone : rest.countP p = 0 := List.countP_eq_zero.2 fun y hy hy' => hp (hx y hy hy')
        rw [if_neg hp, hnone]
        omega

/-! ## Binary search -/

/-- The search closes in on the number of samples that satisfy its condition. -/
theorem partitionFrom_eq {samples : Array Sample} {n : Nat}
    (hp : ∀ i (hi : i < samples.size), p samples[i] = true ↔ i < n) (lo hi : Nat) (hlo : lo ≤ n)
    (hhi : n ≤ hi) (hsize : hi ≤ samples.size) : partitionFrom p samples lo hi = n := by
  induction lo, hi using partitionFrom.induct p samples with
  | case1 lo hi hlt mid x hx hpx ih =>
    obtain ⟨hmid, rfl⟩ := Array.getElem?_eq_some_iff.1 hx
    rw [partitionFrom, if_pos hlt]
    simp only [mid, hx, if_pos hpx]
    exact ih ((hp mid hmid).1 hpx) hhi hsize
  | case2 lo hi hlt mid x hx hpx ih =>
    obtain ⟨hmid, rfl⟩ := Array.getElem?_eq_some_iff.1 hx
    rw [partitionFrom, if_pos hlt]
    simp only [mid, hx, if_neg hpx]
    have hn : n ≤ mid := Nat.le_of_not_lt (mt (hp mid hmid).2 hpx)
    exact ih hlo hn (by omega)
  | case3 lo hi hlt mid hx ih =>
    -- the middle of a stretch of the samples is one of them
    have := Array.getElem?_eq_none_iff.1 hx
    omega
  | case4 lo hi hge =>
    rw [partitionFrom, if_neg hge]
    omega

theorem partitionPoint_eq {samples : Array Sample} (h : Leads p samples.toList) :
    partitionPoint p samples = samples.toList.countP p := by
  have hcount : samples.toList.countP p ≤ samples.size := by
    rw [← Array.length_toList]
    exact List.countP_le_length
  exact partitionFrom_eq (fun i hi => h.getElem_iff (by simpa using hi)) 0 samples.size
    (Nat.zero_le _) hcount (Nat.le_refl _)

/-! ## The cut -/

/-- A stretch that holds just what satisfies the condition is what a filter keeps. -/
theorem filter_eq_stretch {s e : Nat}
    (hp : ∀ i (hi : i < xs.length), p xs[i] = true ↔ s ≤ i ∧ i < e) :
    xs.filter p = (xs.take e).drop s := by
  have htake : xs.filter p = (xs.take e).filter p := by
    have hafter : (xs.drop e).filter p = [] := by
      rw [List.filter_eq_nil_iff]
      intro x hx
      obtain ⟨i, hi, rfl⟩ := List.mem_drop_iff_getElem.1 hx
      rw [hp]
      omega
    calc xs.filter p = (xs.take e ++ xs.drop e).filter p := by rw [List.take_append_drop]
      _ = (xs.take e).filter p := by rw [List.filter_append, hafter, List.append_nil]
  rw [htake]
  apply IsLog.filter_eq_drop
  intro i hi
  rw [List.length_take] at hi
  rw [List.getElem_take, hp i (by omega)]
  omega

/-- No time is a NaN, and the times are in order. -/
def Chronological (xs : List Sample) : Prop :=
  (∀ x ∈ xs, x.time ≠ nan) ∧ xs.Pairwise fun x y => x.time ≤ y.time

instance (xs : List Sample) : Decidable (Chronological xs) := inferInstanceAs (Decidable (_ ∧ _))

theorem Ascending.chronological {s : Series} (h : s.Ascending) :
    Chronological s.samples.toList := by
  have hfinite : ∀ x ∈ s.samples.toList, x.time.isFinite = true :=
    fun x hx => h.finite x (Array.mem_toList_iff.1 hx)
  refine ⟨fun x hx => ne_nan_of_isFinite (hfinite x hx), ?_⟩
  exact h.sorted.imp_of_mem fun hx hy hle => le_of_rank_le (hfinite _ hx) (hfinite _ hy) hle

theorem Chronological.leads_before (h : Chronological xs) (t : Binary64) :
    Leads (fun x => x.time < t) xs :=
  h.2.imp fun hxy hy => decide_eq_true (lt_of_le_of_lt hxy (of_decide_eq_true hy))

theorem Chronological.leads_until (h : Chronological xs) (t : Binary64) :
    Leads (fun x => x.time ≤ t) xs :=
  h.2.imp fun hxy hy => decide_eq_true (le_trans hxy (of_decide_eq_true hy))

section Cut

variable {samples : Array Sample} {w : Window}

/-- A sample lies in the window just if its index lies between what the two searches find. -/
theorem contains_iff_between (h : Chronological samples.toList) (hlo : w.lo ≠ nan) {i : Nat}
    (hi : i < samples.size) :
    w.Contains samples[i].time ↔
      partitionPoint (fun x => x.time < w.lo) samples ≤ i ∧
        i < partitionPoint (fun x => x.time ≤ w.hi) samples := by
  have hbefore := h.leads_before w.lo
  have huntil := h.leads_until w.hi
  have hstart := hbefore.getElem_iff hi
  have hstop := huntil.getElem_iff hi
  rw [decide_eq_true_iff, Array.getElem_toList] at hstart hstop
  have hnan : samples[i].time ≠ nan := h.1 _ (Array.getElem_mem_toList hi)
  rw [partitionPoint_eq hbefore, partitionPoint_eq huntil, Window.Contains, hstop,
    ← not_lt_iff_le hnan hlo, hstart, Nat.not_lt]

/-- Cutting samples in order to a window keeps those that lie in it. -/
theorem inWindow_toList (h : Chronological samples.toList) (hlo : w.lo ≠ nan) :
    (inWindow samples w).toList = samples.toList.filter fun x => w.Contains x.time := by
  rw [inWindow, Array.toList_extract, List.extract_eq_take_drop, ← List.drop_take]
  symm
  apply filter_eq_stretch
  intro i hi
  rw [decide_eq_true_iff]
  exact contains_iff_between h hlo hi

/-- The first search stops no later than the second one, and both inside the samples. -/
theorem partitionPoints_le (h : Chronological samples.toList) (hw : w.lo ≤ w.hi) :
    partitionPoint (fun x => x.time < w.lo) samples ≤
        partitionPoint (fun x => x.time ≤ w.hi) samples ∧
      partitionPoint (fun x => x.time ≤ w.hi) samples ≤ samples.size := by
  rw [partitionPoint_eq (h.leads_before w.lo), partitionPoint_eq (h.leads_until w.hi)]
  refine ⟨List.countP_mono_left fun x _ hx => ?_, List.countP_le_length⟩
  have hbefore := of_decide_eq_true hx
  exact decide_eq_true (le_trans (le_of_lt hbefore) hw)

/-- What the two searches cut out of samples in order of time, where several samples can have the
    same time and the window can lie anywhere. The bounds of the cut are in order and inside the
    samples, an index lies between them just if the time of its sample lies in the window, and so
    the cut consists of exactly the samples in the window, as often and in the order that they are
    held. -/
theorem inWindow_exact (h : Chronological samples.toList) (hw : w.lo ≤ w.hi) :
    let start := partitionPoint (fun x => x.time < w.lo) samples
    let stop := partitionPoint (fun x => x.time ≤ w.hi) samples
    start ≤ stop ∧ stop ≤ samples.size ∧ inWindow samples w = samples.extract start stop ∧
      (∀ i (hi : i < samples.size), w.Contains samples[i].time ↔ start ≤ i ∧ i < stop) ∧
      (inWindow samples w).toList = samples.toList.filter fun x => w.Contains x.time := by
  have hlo : w.lo ≠ nan := (ne_nan_of_le hw).1
  obtain ⟨horder, hsize⟩ := partitionPoints_le h hw
  exact ⟨horder, hsize, rfl, fun _ => contains_iff_between h hlo, inWindow_toList h hlo⟩

/-- Samples of which some have the same time. -/
def repeated : Array Sample := #[⟨1, 0⟩, ⟨2, 0⟩, ⟨2, 1⟩, ⟨3, 0⟩, ⟨4, 0⟩, ⟨4, 1⟩, ⟨5, 0⟩]

/-- A window that begins and ends at times that two samples have keeps all four of them. -/
theorem inWindow_exact_repeated :
    (inWindow repeated ⟨2, 4⟩).toList = [⟨2, 0⟩, ⟨2, 1⟩, ⟨3, 0⟩, ⟨4, 0⟩, ⟨4, 1⟩] := by
  have hordered : Chronological repeated.toList := by decide +kernel
  obtain ⟨-, -, -, -, hcut⟩ := inWindow_exact hordered (w := ⟨2, 4⟩) (by decide +kernel)
  rw [hcut]
  decide +kernel

end Cut

end LinkedCharts.Series
