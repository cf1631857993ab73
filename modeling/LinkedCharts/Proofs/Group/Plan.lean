import LinkedCharts.Group.Feed
import Mathlib.Data.List.Nodup

/-!
# The plan of a round

A plan goes through the charts of a group and through the series of each, and passes over what takes
no live data. A request names its series by the place in the whole list, which is not its place
among those that are left.

Results:
* `Group.seriesIn?`: the series in a slot.
* `Group.mem_plan_iff`: there is a request just for every line with an address.
* `Slot.Before`, `Group.plan_pairwise`: the requests are in the order of charts, and of series in a
  chart.
* `Group.plan_slots_nodup`, `Group.plan_filter_of_mem`: no two of them are for the same series.
-/

namespace LinkedCharts

/-- Where all images are distinct, an element is the only one with its image. -/
theorem filter_eq_singleton {α β : Type} [DecidableEq α] [DecidableEq β] {f : α → β} {l : List α}
    (h : (l.map f).Nodup) {a : α} (ha : a ∈ l) : l.filter (fun b => f b = f a) = [a] := by
  have hsame : ∀ b ∈ l, decide (f b = f a) = decide (b = a) := fun b hb =>
    decide_eq_decide.2 ⟨List.inj_on_of_nodup_map h hb ha, congrArg f⟩
  rw [List.filter_congr hsame, List.filter_eq, List.count_eq_one_of_mem h.of_map ha]
  rfl

theorem zipIdx_ascending {α : Type} (l : List α) : l.zipIdx.Pairwise fun a b => a.2 < b.2 := by
  have hindices : (l.zipIdx.map Prod.snd).Pairwise (· < ·) := by
    rw [List.zipIdx_map_snd]
    exact List.pairwise_lt_range'
  exact List.pairwise_map.1 hindices

/-! ## Slots -/

/-- The slot is in an earlier chart, or earlier in the same chart. -/
def Slot.Before (a b : Slot) : Prop := a.chart < b.chart ∨ a.chart = b.chart ∧ a.series < b.series

instance (a b : Slot) : Decidable (a.Before b) := inferInstanceAs (Decidable (_ ∨ _))

theorem Slot.Before.ne {a b : Slot} (h : a.Before b) : a ≠ b := by
  rintro rfl
  rcases h with h | ⟨-, h⟩
  · exact Nat.lt_irrefl _ h
  · exact Nat.lt_irrefl _ h

/-- There is a request for a line with an address, from the newest sample that it holds. -/
theorem Series.request?_eq_some_iff {s : Series} {slot : Slot} {r : Request} :
    s.request? slot = some r ↔
      s.kind = .line ∧ s.url = some r.url ∧ r.slot = slot ∧ r.since = s.lastTime? := by
  unfold request?
  constructor
  · intro h
    split at h
    · rename_i hpollable
      obtain ⟨url, hurl, rfl⟩ := Option.map_eq_some_iff.1 h
      exact ⟨hpollable.1, hurl, rfl, rfl⟩
    · cases h
  · rintro ⟨hkind, hurl, rfl, hsince⟩
    rw [if_pos ⟨hkind, Option.isSome_of_eq_some hurl⟩, hurl, ← hsince]
    rfl

namespace Group

variable {V : Type} [View V] {g : Group V} {slot : Slot} {r : Request}

/-- The series in a slot. -/
def seriesIn? (g : Group V) (slot : Slot) : Option Series :=
  g.charts[slot.chart]?.bind fun c => (View.series c)[slot.series]?

theorem seriesIn?_eq_some_iff {s : Series} :
    g.seriesIn? slot = some s ↔
      ∃ c, g.charts[slot.chart]? = some c ∧ (View.series c)[slot.series]? = some s :=
  Option.bind_eq_some_iff

/-! ## Requests -/

/-- The requests of a plan, and no others, are those for the lines with an address. -/
theorem mem_plan_iff :
    r ∈ g.plan ↔ ∃ s, g.seriesIn? r.slot = some s ∧ s.kind = .line ∧ s.url = some r.url ∧
      r.since = s.lastTime? := by
  unfold plan
  simp only [List.mem_flatMap, List.mem_filterMap, Series.request?_eq_some_iff]
  constructor
  · rintro ⟨⟨c, i⟩, hc, ⟨s, k⟩, hs, hkind, hurl, hslot, hsince⟩
    rw [hslot]
    exact ⟨s, seriesIn?_eq_some_iff.2 ⟨c, List.mem_zipIdx_iff_getElem?.1 hc,
      List.mem_zipIdx_iff_getElem?.1 hs⟩, hkind, hurl, hsince⟩
  · rintro ⟨s, hseries, hkind, hurl, hsince⟩
    obtain ⟨c, hc, hs⟩ := seriesIn?_eq_some_iff.1 hseries
    exact ⟨(c, r.slot.chart), List.mem_zipIdx_iff_getElem?.2 hc, (s, r.slot.series),
      List.mem_zipIdx_iff_getElem?.2 hs, hkind, hurl, rfl, hsince⟩

/-- The requests come in the order of their slots. -/
theorem plan_pairwise (g : Group V) : g.plan.Pairwise fun a b => a.slot.Before b.slot := by
  refine List.pairwise_flatMap.2 ⟨?_, ?_⟩
  · -- requests for the same chart
    rintro ⟨c, i⟩ -
    refine List.pairwise_filterMap.2 ((zipIdx_ascending _).imp ?_)
    rintro ⟨s, k⟩ ⟨s', k'⟩ hlt r hr r' hr'
    rw [(Series.request?_eq_some_iff.1 hr).2.2.1, (Series.request?_eq_some_iff.1 hr').2.2.1]
    exact Or.inr ⟨rfl, hlt⟩
  · refine (zipIdx_ascending _).imp ?_
    rintro ⟨c, i⟩ ⟨c', i'⟩ hlt r hr r' hr'
    obtain ⟨⟨s, k⟩, -, hr⟩ := List.mem_filterMap.1 hr
    obtain ⟨⟨s', k'⟩, -, hr'⟩ := List.mem_filterMap.1 hr'
    rw [(Series.request?_eq_some_iff.1 hr).2.2.1, (Series.request?_eq_some_iff.1 hr').2.2.1]
    exact Or.inl hlt

/-- No two requests of a plan are for the same series. -/
theorem plan_slots_nodup (g : Group V) : (g.plan.map Request.slot).Nodup :=
  List.pairwise_map.2 (g.plan_pairwise.imp Slot.Before.ne)

theorem plan_filter_of_mem (hr : r ∈ g.plan) :
    g.plan.filter (fun r' => r'.slot = r.slot) = [r] :=
  filter_eq_singleton g.plan_slots_nodup hr

end Group

end LinkedCharts
