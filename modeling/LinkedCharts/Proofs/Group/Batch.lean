import LinkedCharts.Proofs.Group.Data
import LinkedCharts.Proofs.Series.Maxima

/-!
# Batches of live data

A group offers the samples of a batch to one of its series, one after the other, and counts those
that the series accepts. What comes of it is told from the batch as a whole: the series keeps the
samples that set a new maximum, and their number is the count.

Results:
* `Group.apply_eq`: the group after a batch, and the count.
* `Group.apply_again`: the same batch once more is of no effect.
* `Group.apply_append`: a batch can be split anywhere.
* `Group.apply_keeps_maxima`: all of it together, and what it means for batches in order.
-/

namespace LinkedCharts

namespace Series

/-- As many samples are accepted as set a new maximum. -/
theorem accepted_eq {s : Series} (h : s.Dated) (batch : List Sample) :
    s.accepted batch = (s.maxima batch).length := by
  have hsize := appendAll_size s batch
  have hkept : (s.appendAll batch).samples.size = s.samples.size + (s.maxima batch).length := by
    rw [appendAll_eq h]
    simp
  omega

theorem accepted_append (s : Series) (batch more : List Sample) :
    s.accepted (batch ++ more) = s.accepted batch + (s.appendAll batch).accepted more := by
  have hall := appendAll_size s (batch ++ more)
  have hfirst := appendAll_size s batch
  have hsecond := appendAll_size (s.appendAll batch) more
  rw [appendAll_append] at hall
  omega

end Series

namespace Group

variable {g : Group} {slot : Slot} {s : Series}

/-- The series in the slot after samples are applied to it. -/
theorem apply_series? (hs : g.series? slot = some s) (batch : List Sample) :
    (g.apply slot batch).1.series? slot = some (s.appendAll batch) := by
  rw [(apply_of_series? hs batch).2 slot, if_pos rfl]

/-- A batch adds its maxima to the series in the slot and changes nothing else in the group. -/
theorem apply_eq (hs : g.series? slot = some s) (hdated : s.Dated) (batch : List Sample) :
    g.apply slot batch =
      (g.modifySeries slot fun _ => { s with samples := s.samples ++ (s.maxima batch).toArray },
        .ok (s.maxima batch).length) := by
  refine Prod.ext ?_ ?_
  · rw [apply_fst]
    exact modifySeries_congr hs (Series.appendAll_eq hdated batch)
  · rw [apply_snd hs, Series.accepted_eq hdated]

/-- A batch of which the series keeps nothing leaves the group as it is. -/
theorem apply_of_no_maxima (hs : g.series? slot = some s) (hdated : s.Dated) {batch : List Sample}
    (hnone : s.maxima batch = []) : g.apply slot batch = (g, .ok 0) := by
  rw [apply_eq hs hdated, hnone, Array.append_empty]
  refine Prod.ext ?_ rfl
  calc g.modifySeries slot (fun _ => s)
      = g.modifySeries slot (fun t => t) := modifySeries_congr hs rfl
    _ = g := g.modifySeries_self slot

theorem apply_again (hs : g.series? slot = some s) (hdated : s.Dated) (batch : List Sample) :
    (g.apply slot batch).1.apply slot batch = ((g.apply slot batch).1, .ok 0) :=
  apply_of_no_maxima (apply_series? hs batch) (hdated.appendAll batch)
    (Series.maxima_again hdated batch)

/-- A batch has the same effect as its parts one after the other, and the counts add up. -/
theorem apply_append (hs : g.series? slot = some s) (batch more : List Sample) :
    ∃ kept kept', (g.apply slot batch).2 = .ok kept ∧
      ((g.apply slot batch).1.apply slot more).2 = .ok kept' ∧
      g.apply slot (batch ++ more) =
        (((g.apply slot batch).1.apply slot more).1, .ok (kept + kept')) := by
  refine ⟨_, _, apply_snd hs batch, apply_snd (apply_series? hs batch) more, Prod.ext ?_ ?_⟩
  · dsimp only
    rw [apply_fst, apply_fst, apply_fst, modifySeries_modifySeries]
    congr 1
    funext t
    exact t.appendAll_append batch more
  · rw [apply_snd hs, Series.accepted_append]

/-- What becomes of a batch of samples, in whatever order they are, that is applied to a series.

    The group changes in this series alone, which keeps the samples of the batch that are finite,
    newer than what it held and newer than all finite samples before them in the batch, in their
    order behind what it held; their number is returned. Applying the batch again keeps nothing and
    changes nothing. Applying it together with what follows it has the same effect as applying one
    after the other, with the counts added. In a batch of finite samples in strictly ascending order
    all that is newer than what the series held is kept. -/
theorem apply_keeps_maxima (hs : g.series? slot = some s) (hdated : s.Dated)
    (batch : List Sample) :
    g.apply slot batch =
      (g.modifySeries slot fun _ => { s with samples := s.samples ++ (s.maxima batch).toArray },
        .ok (s.maxima batch).length) ∧
    (g.apply slot batch).1.apply slot batch = ((g.apply slot batch).1, .ok 0) ∧
    (∀ more, ∃ kept kept', (g.apply slot batch).2 = .ok kept ∧
      ((g.apply slot batch).1.apply slot more).2 = .ok kept' ∧
      g.apply slot (batch ++ more) =
        (((g.apply slot batch).1.apply slot more).1, .ok (kept + kept'))) ∧
    (IsLog batch → s.maxima batch = batch.filter fun x => ∀ last ∈ s.lastTime?, last < x.time) :=
  ⟨apply_eq hs hdated batch, apply_again hs hdated batch, apply_append hs batch,
    Series.maxima_of_isLog s⟩

/-- A series that holds some samples. -/
def cpu (samples : Array Sample) : Series :=
  { Series.empty "cpu" .line none with samples := samples }

/-- A group whose only series holds a sample. -/
def oneSample : Group :=
  ⟨⟨"load"⟩, [{ Chart.showing ⟨0, 10⟩ [] with series := [cpu #[⟨5, 0⟩]] }], false, 1, .none⟩

/-- In no order, partly too old, partly not finite, and with a time that occurs twice. -/
def unsorted : List Sample :=
  [⟨4, 0⟩, ⟨9, .nan⟩, ⟨6, 0⟩, ⟨6, 1⟩, ⟨.infinite false, 0⟩, ⟨8, 0⟩, ⟨7, 0⟩, ⟨8, 2⟩, ⟨10, 0⟩]

theorem apply_keeps_maxima_unsorted :
    (oneSample.apply ⟨0, 0⟩ unsorted).2 = .ok 3 ∧
      (oneSample.apply ⟨0, 0⟩ unsorted).1.data =
        [[cpu #[⟨5, 0⟩, ⟨6, 0⟩, ⟨8, 0⟩, ⟨10, 0⟩]]] ∧
      (oneSample.apply ⟨0, 0⟩ unsorted).1.apply ⟨0, 0⟩ unsorted =
        ((oneSample.apply ⟨0, 0⟩ unsorted).1, .ok 0) := by
  have hs : oneSample.series? ⟨0, 0⟩ = some (cpu #[⟨5, 0⟩]) := rfl
  obtain ⟨hbatch, hagain, -⟩ := apply_keeps_maxima hs (by decide +kernel) unsorted
  refine ⟨?_, ?_, hagain⟩
  · rw [hbatch]
    decide +kernel
  · rw [hbatch]
    decide +kernel

end Group

end LinkedCharts
