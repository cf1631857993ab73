import LinkedCharts.Proofs.Group.Data
import LinkedCharts.Proofs.Series.Reachable

/-!
# What a plan asks for

A plan asks for what comes after the newest sample of every line with an address. Between a plan and
the answers to it, anything can be called on the group. The slots of the plan stand for the same
series all the while, with all that they held at the time of the plan, so that what was asked for
begins no later than what a series holds when the answer comes.

Results:
* `Series.Reachable.le_last_appendAll`: the newest time of a series never goes back.
* `Group.plan_addresses`: what a plan asks for, and that its slots stand for the same series later.
-/

namespace LinkedCharts

/-- The newest sample that a series holds is never newer than what it holds later. -/
theorem Series.Reachable.le_last_appendAll {s : Series} (h : s.Reachable) {t : Binary64}
    (ht : s.lastTime? = some t) (offered : List Sample) :
    ∃ last, (s.appendAll offered).lastTime? = some last ∧ t ≤ last := by
  obtain ⟨x, hx, rfl⟩ := Option.map_eq_some_iff.1 ht
  have hlater : x ∈ (s.appendAll offered).samples := by
    rw [appendAll_eq h.wellFormed.ascending.dated]
    exact Array.mem_append_left _ (Array.mem_of_back? hx)
  obtain ⟨last, hlast⟩ := Option.ne_none_iff_exists'.1
    (mt lastTime?_eq_none_iff.1 (Array.ne_empty_of_mem hlater))
  exact ⟨last, hlast, (h.appendAll offered).wellFormed.ascending.le_last hlast hlater⟩

namespace Group

variable {V H : Type} [View V] [Recorder H]

/-- A plan has just one request for every line with an address, which asks for what is after the
    newest sample of that series, or for all if there is none, and has no other requests. They come
    in the order of charts, and of series within a chart, each in a slot of its own. Whatever is
    called on the group after the plan was made, every slot stands for the same series, which still
    holds what it held, and no sample held then is newer than the newest one held now. -/
theorem plan_addresses (g : Group V)
    (hreachable : ∀ c ∈ g.charts, ∀ s ∈ View.series c, s.Reachable) :
    (∀ slot s url, g.seriesIn? slot = some s → s.kind = .line → s.url = some url →
      ∃ since, g.plan.filter (fun r => r.slot = slot) = [⟨slot, url, since⟩] ∧
        (since = none ↔ s.samples = #[]) ∧
        ∀ t ∈ since, IsGreatest (Sample.times s.samples.toList) t) ∧
    (∀ r ∈ g.plan, ∃ s, g.seriesIn? r.slot = some s ∧ s.kind = .line ∧ s.url = some r.url) ∧
    (g.plan.Pairwise fun a b => a.slot.Before b.slot) ∧
    (g.plan.map Request.slot).Nodup ∧
    (View.KeepsSeries V → ∀ (h : H) (calls : List Action), ∀ r ∈ g.plan, ∀ s,
      g.seriesIn? r.slot = some s → ∃ later, (g.run h calls).group.seriesIn? r.slot = some later ∧
        (∃ newer : Array Sample, later = { s with samples := s.samples ++ newer }) ∧
        ∀ t ∈ r.since, ∃ last, later.lastTime? = some last ∧ t ≤ last) := by
  have hseries : ∀ {slot s}, g.seriesIn? slot = some s → s.Reachable := by
    intro slot s hs
    obtain ⟨c, hc, hk⟩ := seriesIn?_eq_some_iff.1 hs
    exact hreachable c (List.mem_of_getElem? hc) s (List.mem_of_getElem? hk)
  refine ⟨fun slot s url hs hkind hurl => ?_, fun r hr => ?_, g.plan_pairwise, g.plan_slots_nodup,
    fun hV h calls r hr s hs => ?_⟩
  · have hr : (⟨slot, url, s.lastTime?⟩ : Request) ∈ g.plan :=
      mem_plan_iff.2 ⟨s, hs, hkind, hurl, rfl⟩
    exact ⟨s.lastTime?, plan_filter_of_mem hr, Series.lastTime?_eq_none_iff,
      fun t ht => (hseries hs).wellFormed.ascending.isGreatest_last ht⟩
  · obtain ⟨s, hs, hkind, hurl, -⟩ := mem_plan_iff.1 hr
    exact ⟨s, hs, hkind, hurl⟩
  · obtain ⟨s', hs', -, -, hsince⟩ := mem_plan_iff.1 hr
    obtain rfl := Option.some.inj (hs.symm.trans hs')
    obtain ⟨offered, hlater⟩ := run_seriesIn? hV hs h calls
    refine ⟨s.appendAll offered, hlater, ⟨_, Series.appendAll_eq ?_ offered⟩, fun t ht => ?_⟩
    · exact (hseries hs).wellFormed.ascending.dated
    · rw [hsince] at ht
      exact (hseries hs).le_last_appendAll ht offered

/-- A line that has begun. -/
def begun : Series := (Series.empty "cpu" .line (some "/cpu")).appendAll [⟨0, 1⟩, ⟨2000, 2⟩]

/-- An overview with an address beside the line that has begun, and a line without an address beside
    one that has not begun. -/
def fourSeries : Group :=
  ⟨⟨"load"⟩,
    [{ Chart.showing ⟨0, 10⟩ [] with series := [.empty "all" .navigator (some "/all"), begun] },
      { Chart.showing ⟨0, 10⟩ [] with
        series := [.empty "idle" .line none, .empty "mem" .line (some "/mem")] }],
    false, 1, .none⟩

theorem plan_addresses_fourSeries :
    (∃ since, fourSeries.plan.filter (fun r => r.slot = ⟨0, 1⟩) = [⟨⟨0, 1⟩, "/cpu", since⟩] ∧
      ∀ t ∈ since, IsGreatest (Sample.times begun.samples.toList) t) ∧
    ∃ later, (fourSeries.run (Journal.start []) [.append 0 1 ⟨3000, 1⟩, .redraw, .userSet 0 ⟨2, 4⟩,
          .apply ⟨1, 1⟩ [⟨1, 1⟩]]).group.seriesIn? ⟨0, 1⟩ = some later ∧
      (∃ newer : Array Sample, later = { begun with samples := begun.samples ++ newer }) ∧
      ∃ last, later.lastTime? = some last ∧ 2000 ≤ last := by
  have hempty : ∀ name kind url, (Series.empty name kind url).Reachable := fun name kind url =>
    .relabel _ name kind url (.empty name kind)
  have hreachable : ∀ c ∈ fourSeries.charts, ∀ s ∈ View.series c, s.Reachable := by
    simp only [fourSeries, View.series_chart, List.forall_mem_cons, List.not_mem_nil,
      false_implies, implies_true, and_true]
    exact ⟨⟨hempty _ _ _, (hempty _ _ _).appendAll _⟩, hempty _ _ _, hempty _ _ _⟩
  have hs : fourSeries.seriesIn? ⟨0, 1⟩ = some begun := rfl
  obtain ⟨hasked, -, -, -, hlater⟩ := plan_addresses (H := Journal) fourSeries hreachable
  obtain ⟨since, hfilter, -, hgreatest⟩ := hasked ⟨0, 1⟩ begun "/cpu" hs
    (by decide +kernel) (by decide +kernel)
  have hr : (⟨⟨0, 1⟩, "/cpu", some 2000⟩ : Request) ∈ fourSeries.plan := by decide +kernel
  obtain ⟨later, hthere, hgrown, hlast⟩ :=
    hlater Chart.keepsSeries (Journal.start []) _ _ hr begun hs
  exact ⟨⟨since, hfilter, hgreatest⟩, later, hthere, hgrown, hlast 2000 rfl⟩

end Group

end LinkedCharts
