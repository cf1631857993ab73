import LinkedCharts.Series
import LinkedCharts.Proofs.Binary64.Order

/-!
# Series that follow a log

A backend keeps a log of samples for a series: finite, and strictly later one after the other. A
series that holds the beginning of the log takes any excerpt that leaves no gap, however much of it
is known already, and then holds the beginning of the log up to where the excerpt ends.

Results:
* `IsLog`: a finite log in strictly ascending order.
* `IsLog.filter_from`, `IsLog.filter_after`: the samples of a log from a time on, or after it.
* `Series.accepts_iff`: a series that holds the beginning of a log accepts just what comes later.
* `Series.appendAll_excerpt`: an excerpt without a gap extends the beginning that is held.
-/

namespace LinkedCharts

/-! ## Logs -/

/-- All samples are finite, and each one is later than those before it. -/
structure IsLog (log : List Sample) : Prop where
  finite : ∀ x ∈ log, x.IsFinite
  ascending : log.Pairwise fun x y => x.time < y.time

instance (log : List Sample) : Decidable (IsLog log) :=
  decidable_of_iff ((∀ x ∈ log, x.IsFinite) ∧ log.Pairwise fun x y => x.time < y.time)
    ⟨fun h => ⟨h.1, h.2⟩, fun h => ⟨h.finite, h.ascending⟩⟩

namespace IsLog

variable {log : List Sample}

theorem time_ne_nan (h : IsLog log) {i : Nat} (hi : i < log.length) : log[i].time ≠ .nan :=
  Binary64.ne_nan_of_isFinite (h.finite _ (List.getElem_mem hi)).1

theorem lt_of_lt (h : IsLog log) {i j : Nat} (hi : i < log.length) (hj : j < log.length)
    (hij : i < j) : log[i].time < log[j].time :=
  List.pairwise_iff_getElem.1 h.ascending i j hi hj hij

/-- Times are in the order of places. -/
theorem le_iff (h : IsLog log) {i j : Nat} (hi : i < log.length) (hj : j < log.length) :
    log[i].time ≤ log[j].time ↔ i ≤ j := by
  constructor
  · intro hle
    rcases Nat.lt_or_ge j i with hlt | hge
    · exact absurd hle (Binary64.not_le_of_lt (h.lt_of_lt hj hi hlt))
    · exact hge
  · intro hle
    rcases Nat.lt_or_eq_of_le hle with hlt | rfl
    · exact Binary64.le_of_lt (h.lt_of_lt hi hj hlt)
    · exact Binary64.le_refl (h.time_ne_nan hi)

theorem lt_iff (h : IsLog log) {i j : Nat} (hi : i < log.length) (hj : j < log.length) :
    log[i].time < log[j].time ↔ i < j := by
  rw [← Binary64.not_le_iff_lt (h.time_ne_nan hj) (h.time_ne_nan hi), h.le_iff hj hi]
  omega

/-- What holds from some place on filters out the rest of the log. -/
theorem filter_eq_drop {p : Sample → Bool} {k : Nat}
    (hp : ∀ i (hi : i < log.length), p log[i] = true ↔ k ≤ i) : log.filter p = log.drop k := by
  have hbefore : (log.take k).filter p = [] := by
    rw [List.filter_eq_nil_iff]
    intro x hx
    obtain ⟨i, hi, rfl⟩ := List.mem_take_iff_getElem.1 hx
    rw [hp]
    omega
  have hafter : (log.drop k).filter p = log.drop k := by
    rw [List.filter_eq_self]
    intro x hx
    obtain ⟨i, hi, rfl⟩ := List.mem_drop_iff_getElem.1 hx
    rw [hp]
    omega
  calc log.filter p = (log.take k ++ log.drop k).filter p := by rw [List.take_append_drop]
    _ = log.drop k := by rw [List.filter_append, hbefore, hafter, List.nil_append]

/-- The samples from the time of one of them on. -/
theorem filter_from (h : IsLog log) {k : Nat} (hk : k < log.length) :
    log.filter (fun x => log[k].time ≤ x.time) = log.drop k := by
  apply filter_eq_drop
  intro i hi
  rw [decide_eq_true_iff, h.le_iff hk hi]

/-- The samples after the time of one of them. -/
theorem filter_after (h : IsLog log) {k : Nat} (hk : k < log.length) :
    log.filter (fun x => log[k].time < x.time) = log.drop (k + 1) := by
  apply filter_eq_drop
  intro i hi
  rw [decide_eq_true_iff, h.lt_iff hk hi]
  omega

end IsLog

/-! ## Series -/

namespace Series

/-- The series after samples are offered to it in order. -/
def appendAll (s : Series) (xs : List Sample) : Series := xs.foldl append s

theorem appendAll_append (s : Series) (xs ys : List Sample) :
    s.appendAll (xs ++ ys) = (s.appendAll xs).appendAll ys := List.foldl_append

theorem append_isPollable (s : Series) (x : Sample) : (s.append x).IsPollable ↔ s.IsPollable := by
  unfold append
  split
  · exact Iff.rfl
  · exact Iff.rfl

theorem appendAll_isPollable (s : Series) (xs : List Sample) :
    (s.appendAll xs).IsPollable ↔ s.IsPollable := by
  induction xs generalizing s with
  | nil => exact Iff.rfl
  | cons x rest ih => exact (ih (s.append x)).trans (append_isPollable s x)

theorem lastTime?_eq (s : Series) : s.lastTime? = s.samples.toList.getLast?.map (·.time) := by
  unfold lastTime?
  rw [Array.getLast?_toList]

variable {log : List Sample} {s : Series} {n : Nat}

/-- The newest sample of the beginning of a log. -/
theorem lastTime?_of_beginning (hs : s.samples.toList = log.take (n + 1)) (hn : n < log.length) :
    s.lastTime? = some log[n].time := by
  rw [lastTime?_eq, hs, List.getLast?_take, if_neg (by omega), Nat.add_sub_cancel,
    List.getElem?_eq_getElem hn]
  rfl

/-- A series that holds the beginning of a log accepts a sample of it just if it comes later. -/
theorem accepts_iff (hlog : IsLog log) (hn : n ≤ log.length) (hs : s.samples.toList = log.take n)
    {i : Nat} (hi : i < log.length) : s.Accepts log[i] ↔ n ≤ i := by
  have hfinite : log[i].IsFinite := hlog.finite _ (List.getElem_mem hi)
  cases n with
  | zero =>
    have hnone : s.lastTime? = none := by
      rw [lastTime?_eq, hs]
      rfl
    refine ⟨fun _ => Nat.zero_le i, fun _ => ⟨hfinite, ?_⟩⟩
    rw [hnone]
    rintro last ⟨⟩
  | succ k =>
    have hlast := lastTime?_of_beginning hs (by omega)
    unfold Accepts
    rw [hlast]
    constructor
    · rintro ⟨-, hnew⟩
      have := hnew _ rfl
      rw [hlog.le_iff hi (by omega)] at this
      omega
    · intro hle
      refine ⟨hfinite, ?_⟩
      rintro last ⟨⟩
      rw [hlog.le_iff hi (by omega)]
      omega

/-- Offering the sample at some place of the log up to the end of what is held. -/
theorem append_next (hlog : IsLog log) (hn : n ≤ log.length) (hs : s.samples.toList = log.take n)
    {i : Nat} (hi : i < log.length) (hle : i ≤ n) :
    (s.append log[i]).samples.toList = log.take (max n (i + 1)) := by
  unfold append
  by_cases hnew : n ≤ i
  · have heq : i = n := by omega
    subst heq
    rw [if_pos ((accepts_iff hlog hn hs hi).2 hnew), Nat.max_eq_right (by omega)]
    show (s.samples.push log[i]).toList = _
    rw [Array.toList_push, hs, List.take_append_getElem hi]
  · rw [if_neg (mt (accepts_iff hlog hn hs hi).1 hnew), Nat.max_eq_left (by omega)]
    exact hs

/-- An excerpt of the log that begins within what is held, or just behind it, extends what is held
    to where the excerpt ends. -/
theorem appendAll_excerpt (hlog : IsLog log) (hn : n ≤ log.length)
    (hs : s.samples.toList = log.take n) {d m : Nat} (hd : d ≤ n) (hm : m ≤ log.length) :
    (s.appendAll ((log.take m).drop d)).samples.toList = log.take (max n m) := by
  obtain ⟨xs, hxs⟩ : ∃ xs, (log.take m).drop d = xs := ⟨_, rfl⟩
  rw [hxs]
  induction xs generalizing s n d with
  | nil =>
    have hlen := List.drop_eq_nil_iff.1 hxs
    rw [List.length_take, Nat.min_eq_left hm] at hlen
    rw [Nat.max_eq_left (by omega)]
    exact hs
  | cons x rest ih =>
    have hdm : d < m := by
      rcases Nat.lt_or_ge d m with hlt | hge
      · exact hlt
      · rw [List.drop_eq_nil_iff.2 (by rw [List.length_take]; omega)] at hxs
        cases hxs
    rw [List.drop_eq_getElem_cons (by rw [List.length_take]; omega), List.getElem_take] at hxs
    obtain ⟨rfl, hrest⟩ := List.cons.inj hxs
    have hstep := append_next hlog hn hs (show d < log.length by omega) hd
    have hnext := ih (by omega) hstep (d := d + 1) (by omega) hrest
    rw [show max (max n (d + 1)) m = max n m by omega] at hnext
    exact hnext

end Series

end LinkedCharts
