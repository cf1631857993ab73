import LinkedCharts.Proofs.Chart.Drawing
import LinkedCharts.Proofs.Group.Notices
import LinkedCharts.Proofs.Poll.Settling

/-!
# The report of a round

A round fetches for every series that takes live data, and some of the fetches bring samples in
time, some fail, and some do not settle. Its report can be checked against the fetches and against
the group: it counts what was fetched and how that ended, and the samples that it counts are those
that the group holds more than before. Only the series whose samples came have changed, nothing is
recorded, and every chart with an axis is drawn once, after all samples are in. A drawing that fails
becomes the answer of the round, and leaves the samples where they are.

Results:
* `Group.plan_length`: there is one request for every series that takes live data.
* `Group.Expects.held_foldl`: the group grows by the samples that its series accept.
* `Group.series?_foldl_of_mem`, `Group.series?_foldl_of_none`, `Group.bare_foldl`: what answers
  change, and what they leave alone.
* `Chart.DrawnOnce`, `Group.redraw_drawnOnce`: a drawing of all charts that succeeds.
* `Site.Accounts`, `Site.tick_accounts`: what a round comes to.
-/

namespace LinkedCharts

/-- An element in the place of another one changes a sum by the difference of the two. -/
theorem sum_map_set {α : Type} {f : α → Nat} {l : List α} {i : Nat} {x y : α}
    (hx : l[i]? = some x) : ((l.set i y).map f).sum + f x = (l.map f).sum + f y := by
  induction l generalizing i with
  | nil => cases hx
  | cons a rest ih =>
    cases i with
    | zero =>
      obtain rfl := Option.some.inj hx
      simp only [List.set_cons_zero, List.map_cons, List.sum_cons]
      omega
    | succ i =>
      have hrest := ih hx
      simp only [List.set_cons_succ, List.map_cons, List.sum_cons]
      omega

theorem map_zipIdx_fst {α β : Type} (f : α → β) (l : List α) :
    l.zipIdx.map (fun p => f p.1) = l.map f := by
  calc l.zipIdx.map (fun p => f p.1)
      = (l.zipIdx.map Prod.fst).map f := by rw [List.map_map]; rfl
    _ = l.map f := by rw [List.zipIdx_map_fst]

/-! ## What a group holds -/

/-- How many samples the series of a chart hold. -/
def Chart.held (c : Chart) : Nat := (c.series.map fun s => s.samples.size).sum

/-- How many series of a chart take live data. -/
def Chart.pollable (c : Chart) : Nat := c.series.countP fun s => s.IsPollable

namespace Group

variable {g : Group} {slot : Slot} {s : Series} {a : Settled} {settled : List Settled}

/-- How many samples the series of a group hold. -/
def held (g : Group) : Nat := (g.charts.map Chart.held).sum

/-- How many series of a group take live data. -/
def pollable (g : Group) : Nat := (g.charts.map Chart.pollable).sum

/-- The group without its series. -/
def bare (g : Group) : Group := { g with charts := g.charts.map fun c => { c with series := [] } }

theorem request?_isSome (s : Series) (slot : Slot) :
    (s.request? slot).isSome = decide s.IsPollable := by
  unfold Series.request?
  split
  · rename_i h
    rw [Option.isSome_map, h.2, decide_eq_true h]
  · rename_i h
    rw [decide_eq_false h]
    rfl

/-- There is one request for every series that takes live data. -/
theorem plan_length (g : Group) : g.plan.length = g.pollable := by
  have hchart : ∀ p : Chart × Nat, ((View.series p.1).zipIdx.filterMap fun q =>
      q.1.request? ⟨p.2, q.2⟩).length = p.1.pollable := by
    intro p
    rw [List.length_filterMap_eq_countP, View.series_chart]
    simp only [request?_isSome]
    calc p.1.series.zipIdx.countP (fun q => q.1.IsPollable)
        = (p.1.series.zipIdx.map Prod.fst).countP (fun s => s.IsPollable) := by
          rw [List.countP_map]
          rfl
      _ = p.1.pollable := by rw [List.zipIdx_map_fst, Chart.pollable]
  unfold plan pollable
  rw [List.length_flatMap, ← map_zipIdx_fst Chart.pollable g.charts]
  simp only [hchart]

theorem held_modifySeries (hs : g.series? slot = some s) (change : Series → Series) :
    (g.modifySeries slot change).held + s.samples.size = g.held + (change s).samples.size := by
  obtain ⟨c, hc, hseries⟩ := series?_eq_some_iff.1 hs
  rw [modifySeries_of_getElem? hc hseries]
  have hchart : ({ c with series := c.series.set slot.series (change s) } : Chart).held +
      s.samples.size = c.held + (change s).samples.size := sum_map_set hseries
  have hgroup := sum_map_set (f := Chart.held)
    (y := { c with series := c.series.set slot.series (change s) }) hc
  unfold held
  dsimp only
  omega

theorem held_of_data {g g' : Group} (h : g'.data = g.data) : g'.held = g.held := by
  have hdata : ∀ g : Group, g.held =
      (g.data.map fun series => (series.map fun s => s.samples.size).sum).sum := by
    intro g
    unfold data
    rw [List.map_map]
    rfl
  rw [hdata, hdata, h]

/-- An answer makes the group grow by the samples that its series accepts. -/
theorem held_absorb (hs : ∃ s, g.series? a.1.slot = some s) :
    (g.absorb a).held = g.held + g.gain a := by
  obtain ⟨s, hs⟩ := hs
  obtain ⟨request, result⟩ := a
  cases result with
  | error f => rfl
  | ok samples =>
    have hheld := held_modifySeries hs (·.appendAll samples)
    have hsize := s.appendAll_size samples
    rw [gain_of_series? hs]
    unfold absorb
    dsimp only at hheld ⊢
    omega

theorem Expects.held_foldl (h : g.Expects settled) :
    (settled.foldl absorb g).held = g.held + (settled.map g.gain).sum := by
  induction settled generalizing g with
  | nil => rfl
  | cons a rest ih =>
    have hfirst := held_absorb (h.there a List.mem_cons_self)
    have hrest := ih h.tail
    rw [h.gain_tail] at hrest
    rw [List.foldl_cons, List.map_cons, List.sum_cons]
    omega

/-! ## What answers change -/

/-- An answer that brings no samples for a series leaves it alone. -/
theorem series?_absorb_of_none (g : Group)
    (h : a.1.slot = slot → ∀ samples, a.2 ≠ .ok samples) :
    (g.absorb a).series? slot = g.series? slot := by
  by_cases hslot : slot = a.1.slot
  · cases hresult : a.2 with
    | error f =>
      unfold absorb
      rw [hresult]
    | ok samples => exact absurd hresult (h hslot.symm samples)
  · exact series?_absorb g a hslot

theorem series?_foldl_of_none (g : Group)
    (h : ∀ a ∈ settled, a.1.slot = slot → ∀ samples, a.2 ≠ .ok samples) :
    (settled.foldl absorb g).series? slot = g.series? slot := by
  induction settled generalizing g with
  | nil => rfl
  | cons a rest ih =>
    obtain ⟨ha, hrest⟩ := List.forall_mem_cons.1 h
    rw [List.foldl_cons, ih (g.absorb a) hrest, series?_absorb_of_none g ha]

/-- Of several answers for different series, each brings its samples to its own. -/
theorem series?_foldl_of_mem (g : Group) (hdistinct : (settled.map fun a => a.1.slot).Nodup)
    (ha : a ∈ settled) {samples : List Sample} (hok : a.2 = .ok samples) :
    (settled.foldl absorb g).series? a.1.slot =
      (g.series? a.1.slot).map (·.appendAll samples) := by
  induction settled generalizing g with
  | nil => cases ha
  | cons b rest ih =>
    rw [List.map_cons, List.nodup_cons] at hdistinct
    obtain ⟨hb, hrest⟩ := hdistinct
    rw [List.foldl_cons]
    rcases List.mem_cons.1 ha with rfl | hmem
    · -- the answers behind it are for other series
      have hothers : ∀ b ∈ rest, b.1.slot = a.1.slot → ∀ samples, b.2 ≠ .ok samples :=
        fun b hmem heq => absurd (List.mem_map.2 ⟨b, hmem, heq⟩) hb
      rw [series?_foldl_of_none _ hothers, absorb, hok]
      dsimp only
      rw [series?_modifySeries, if_pos rfl]
    · have hne : a.1.slot ≠ b.1.slot := fun heq => hb (List.mem_map.2 ⟨a, hmem, heq⟩)
      rw [ih (g.absorb b) hrest hmem, series?_absorb g b hne]

/-- Apart from the series, an answer changes nothing. -/
theorem bare_modifySeries (g : Group) (slot : Slot) (change : Series → Series) :
    (g.modifySeries slot change).bare = g.bare := by
  unfold bare modifySeries
  rw [List.modify_eq_set_getElem?]
  cases hc : g.charts[slot.chart]? with
  | none => rfl
  | some c =>
    have hcharts := map_set_of_eq (f := fun c : Chart => { c with series := [] })
      (y := { c with series := c.series.modify slot.series change }) hc rfl
    exact congrArg (fun charts => { g with charts }) hcharts

theorem bare_foldl (g : Group) (settled : List Settled) :
    (settled.foldl absorb g).bare = g.bare := by
  induction settled generalizing g with
  | nil => rfl
  | cons a rest ih =>
    rw [List.foldl_cons, ih]
    unfold absorb
    split
    · rfl
    · exact g.bare_modifySeries _ _

end Group

/-! ## Drawings that succeed -/

namespace Chart

/-- With an axis, the chart was drawn once, with the samples that it held before. Without one,
    nothing has happened to it. -/
def DrawnOnce (before after : Chart) : Prop :=
  match after.axis with
  | none => after = before
  | some a => after = before.drawnWith a

/-- Where following the data succeeds, a chart that has an axis keeps one. -/
theorem followData_of_ok {c d : Chart} {moved : Option Window} (h : c.followData = (d, .ok moved)) :
    ∃ axis, d = { c with axis } ∧ (axis = none → c.axis = none) := by
  rcases followData_cases c with ⟨f, heq⟩ | ⟨hnone, o, -, heq⟩ |
    ⟨-, -, after, -, told, -, -, -, heq⟩
  · rw [heq] at h
    cases h
  · rw [heq] at h
    cases h
    exact ⟨o, rfl, fun _ => hnone⟩
  · rw [heq] at h
    cases h
    exact ⟨some after, rfl, nofun⟩

theorem redraw_drawnOnce {c d : Chart} {moved : Option Window} (h : c.redraw = (d, .ok moved)) :
    c.DrawnOnce d := by
  unfold redraw at h
  rcases hfollow : c.followData with ⟨e, f | told⟩
  · rw [hfollow] at h
    cases h
  · obtain ⟨axis, rfl, hnone⟩ := followData_of_ok hfollow
    rw [hfollow] at h
    cases axis with
    | none =>
      cases h
      show { c with axis := none } = c
      rw [← hnone rfl]
    | some a =>
      dsimp only at h
      rcases hdraw : c.canvas.draw (({ c with axis := some a } : Chart).scene a.visible) with
        ⟨canvas, f | ⟨⟩⟩
      · rw [hdraw] at h
        cases h
      · rw [hdraw] at h
        cases h
        rw [Canvas.draw_of_ok hdraw]
        rfl

end Chart

namespace Group

/-- What every chart has become that acted without failing, every chart has become after a pass that
    got through. -/
theorem pass_forall₂ {V : Type} {act : Nat → V → V × Except Fault (Option Window)}
    {R : V → V → Prop} (hact : ∀ i c d moved, act i c = (d, .ok moved) → R c d) (index : Nat)
    {cs : List V} (hok : (pass act index cs).fault = none) :
    List.Forall₂ R cs (pass act index cs).charts := by
  induction cs generalizing index with
  | nil => exact .nil
  | cons c rest ih =>
    unfold pass at hok ⊢
    rcases hresult : act index c with ⟨d, f | moved⟩
    · rw [hresult] at hok
      cases hok
    · rw [hresult] at hok
      exact .cons (hact index c d moved hresult) (ih (index + 1) hok)

/-- A drawing of all charts that succeeds has drawn each of them once. -/
theorem redraw_drawnOnce {g : Group} (hok : g.redraw.2 = .ok ()) :
    List.Forall₂ Chart.DrawnOnce g.charts g.redraw.1.charts := by
  have hact : ∀ (i : Nat) (c d : Chart) (moved : Option Window),
      View.redraw c = (d, .ok moved) → c.DrawnOnce d := fun _ _ _ _ h => Chart.redraw_drawnOnce h
  rw [redraw_charts]
  exact pass_forall₂ hact 0 (redraw_fault hok)

/-- A drawing of all charts that succeeds is counted. -/
theorem redraw_passes {g : Group} (hok : g.redraw.2 = .ok ()) :
    g.redraw.1.stats.passes = g.stats.passes + 1 := by
  have hfault := redraw_fault hok
  rw [redraw_fst]
  dsimp only
  rw [hfault]
  rfl

end Group

/-! ## Fetches and answers -/

section Within

variable {timeout : Nat} {fetches : List (Request × Reply)} {a : Settled}

theorem mem_answersWithin :
    a ∈ answersWithin timeout fetches ↔
      ∃ p ∈ fetches, p.1 = a.1 ∧ p.2.within timeout = some a.2 := by
  unfold answersWithin
  rw [List.mem_filterMap]
  refine exists_congr fun p => and_congr_right fun _ => ?_
  rw [Option.map_eq_some_iff]
  constructor
  · rintro ⟨result, hresult, rfl⟩
    exact ⟨rfl, hresult⟩
  · rintro ⟨hrequest, hresult⟩
    exact ⟨a.2, hresult, Prod.ext hrequest rfl⟩

theorem answersWithin_length (timeout : Nat) (fetches : List (Request × Reply)) :
    (answersWithin timeout fetches).length =
      fetches.countP fun p => (p.2.within timeout).isSome := by
  unfold answersWithin
  rw [List.length_filterMap_eq_countP]
  simp only [Option.isSome_map]

theorem answersWithin_failed (timeout : Nat) (fetches : List (Request × Reply)) :
    (answersWithin timeout fetches).countP (fun a => !a.2.isOk) =
      fetches.countP fun p => (p.2.within timeout).any fun result => !result.isOk := by
  unfold answersWithin
  rw [List.countP_filterMap]
  congr 1
  funext p
  cases p.2.within timeout with
  | none => rfl
  | some result => rfl

end Within

/-! ## Rounds -/

namespace Site

variable {s later : Site} {timeout : Nat} {f : Flight} {H : Type} [Recorder H]

/-- The fetches of a round that begins now, each with what comes of it. -/
def fetches (s : Site) : List (Request × Reply) :=
  (s.source.askAll s.clock s.shared.group.plan).2

/-- The group with the samples of the fetches that bring some in time, each offered to its series.
    All other series are as they were, and so is the group apart from its series. -/
structure Brings (s : Site) (timeout : Nat) (before fetched : Group) : Prop where
  arrived : ∀ p ∈ s.fetches, ∀ samples, p.2.within timeout = some (.ok samples) →
    fetched.series? p.1.slot = (before.series? p.1.slot).map (·.appendAll samples)
  others : ∀ slot, (∀ p ∈ s.fetches, p.1.slot = slot →
    ∀ samples, p.2.within timeout ≠ some (.ok samples)) →
    fetched.series? slot = before.series? slot
  bare : fetched.bare = before.bare

/-- The report of a round that got through, and what it leaves: the requests, how the fetches ended
    and the growth of the group are counted, and every chart was drawn once, with all samples in. -/
structure Balances (s : Site) (timeout : Nat) (before fetched after : Group)
    (report : TickReport) : Prop where
  issued : report.issued = s.shared.group.pollable
  completed : report.completed = s.fetches.countP fun p => (p.2.within timeout).isSome
  failed : report.failed =
    s.fetches.countP fun p => (p.2.within timeout).any fun result => !result.isOk
  timedOut : report.timedOut ↔ report.completed < report.issued
  appended : after.held = before.held + report.appended
  passes : after.stats.passes = before.stats.passes + 1
  drawn : List.Forall₂ Chart.DrawnOnce fetched.charts after.charts

/-- What a round launched on a site comes to, on the group as it is when the round stops waiting.
    Samples can be offered to all series of the plan. The group gets the samples that came, and is
    then drawn, whereby its series stay as they are and no history is written to. If the drawing
    fails, so does the round; otherwise the report balances. -/
structure Accounts (s : Site) (timeout : Nat) (before fetched after : Group)
    (answer : Except Fault TickReport) : Prop where
  offers : ∀ r ∈ s.shared.group.plan, ∀ samples,
    ∃ kept, (before.apply r.slot samples).2 = .ok kept
  brings : s.Brings timeout before fetched
  redrawn : after = fetched.redraw.1
  data : after.data = fetched.data
  pushes : after.stats.pushes = before.stats.pushes
  history : ∀ (H : Type) [Recorder H] (h : H),
    (fetched.sweepAll Group.notify (fun _ c => View.redraw c) h).2.1 = h
  fails : ∀ f, fetched.redraw.2 = .error f → answer = .error f
  succeeds : fetched.redraw.2 = .ok () →
    ∃ report, answer = .ok report ∧ s.Balances timeout before fetched after report

/-- The answers that are in when a round stops waiting are those of its fetches. -/
theorem StopsWith.perm (h : s.StopsWith timeout f) :
    f.settled.Perm (answersWithin timeout s.fetches) := by
  obtain ⟨s', launched, hlaunch, horder, -⟩ := h
  rw [launch_of_open (open_of_launch hlaunch)] at hlaunch
  obtain ⟨-, rfl⟩ := Prod.mk.inj (Except.ok.inj hlaunch)
  exact horder.trans (settledWithin_perm timeout s.fetches)

/-- Applying the answers of a round brings the samples of its fetches. -/
theorem StopsWith.brings (h : s.StopsWith timeout f) {before : Group}
    (hexpects : before.Expects f.settled) :
    s.Brings timeout before (f.settled.foldl Group.absorb before) where
  arrived := by
    intro p hp samples hin
    have hmem : (p.1, Except.ok samples) ∈ f.settled :=
      h.perm.mem_iff.2 (mem_answersWithin.2 ⟨p, hp, rfl, hin⟩)
    exact Group.series?_foldl_of_mem before hexpects.distinct hmem rfl
  others := by
    intro slot hnone
    refine Group.series?_foldl_of_none before fun a ha hslot samples hok => ?_
    obtain ⟨p, hp, hrequest, hin⟩ := mem_answersWithin.1 (h.perm.mem_iff.1 ha)
    rw [← hrequest] at hslot
    rw [hok] at hin
    exact hnone p hp hslot samples hin
  bare := before.bare_foldl f.settled

/-- The report that counts the answers of a round balances if the drawing succeeds. -/
theorem StopsWith.balances (h : s.StopsWith timeout f) {before : Group}
    (hexpects : before.Expects f.settled)
    (hok : (f.settled.foldl Group.absorb before).redraw.2 = .ok ()) :
    s.Balances timeout before (f.settled.foldl Group.absorb before)
      (f.settled.foldl Group.absorb before).redraw.1
      (before.tally ⟨f.issued, 0, 0, 0, f.timedOut⟩ f.settled) := by
  have hfor := h.isFor
  have hbare := before.bare_foldl f.settled
  have hpasses := congrArg (fun g : Group => g.stats.passes) hbare
  refine ⟨hfor.issued.trans (Group.plan_length _), ?_, ?_, ?_, ?_, ?_, Group.redraw_drawnOnce hok⟩
  · show 0 + f.settled.length = _
    rw [Nat.zero_add, h.perm.length_eq, answersWithin_length]
  · show 0 + f.settled.countP _ = _
    rw [Nat.zero_add, h.perm.countP_eq, answersWithin_failed]
  · show f.timedOut = true ↔ 0 + f.settled.length < f.issued
    rw [hfor.timedOut, hfor.issued, decide_eq_true_iff, Nat.zero_add]
  · show _ = before.held + (0 + _)
    rw [Group.held_of_data (Group.redraw_data _), hexpects.held_foldl, Nat.zero_add]
  · rw [Group.redraw_passes hok]
    exact congrArg (· + 1) hpasses

/-- What a round comes to whenever and in whatever order its answers come in, and whatever the group
    is used for while it waits. -/
theorem land_accounts (hf : s.StopsWith timeout f) (h : H) (between : List Action)
    (hopen : later.shared.poisoned = false)
    (hlater : later.shared.group = (s.shared.group.run h between).group) :
    ∃ fetched, s.Accounts timeout later.shared.group fetched (later.land f).1.shared.group
      (later.land f).2 := by
  have hexpects : later.shared.group.Expects f.settled := by
    rw [hlater]
    exact hf.isFor.expects h between
  obtain ⟨hgroup, hanswer⟩ := land_of_open hopen hexpects
  refine ⟨f.settled.foldl Group.absorb later.shared.group, ?_⟩
  rw [hgroup, hanswer]
  refine ⟨?_, hf.brings hexpects, rfl, Group.redraw_data _, ?_, ?_, ?_, ?_⟩
  · intro r hr samples
    obtain ⟨t, ht, -, -⟩ := Group.mem_plan hr
    obtain ⟨xs, hxs⟩ := Group.run_series? ht h between
    rw [hlater]
    exact ⟨_, Group.apply_snd hxs samples⟩
  · have hbare := later.shared.group.bare_foldl f.settled
    have hpushes := congrArg (fun g : Group => g.stats.pushes) hbare
    rw [Group.redraw_fst]
    exact hpushes
  · intro H _ h
    rw [Group.sweepAll_eq Group.notify_echoes]
  · intro f hfails
    rw [hfails]
    rfl
  · intro hok
    refine ⟨_, ?_, hf.balances hexpects hok⟩
    rw [hok]
    rfl

/-- A round that waits as long as it has to is launched, and lands with the group as it was. -/
theorem tick_eq_land (hopen : s.shared.poisoned = false) (timeout : Nat) :
    ∃ (s' : Site) (f : Flight), s.StopsWith timeout f ∧ s'.shared = s.shared ∧
      s.tick timeout = s'.land f := by
  have hlaunch := launch_of_open hopen timeout
  refine ⟨{ s with source := (s.source.askAll s.clock s.shared.group.plan).1 }, _,
    ⟨_, _, hlaunch, .refl _, rfl⟩, rfl, ?_⟩
  unfold tick
  rw [hlaunch]

/-- The balance of a round, for every group whose lock is sound and whatever comes of the fetches:
    samples of any kind, failures, or nothing before the timeout. The round accounts for the group
    and for its answer, as it is spelled out above: the samples that came are in their series and
    nothing else has changed when the group is drawn, and the report balances if that succeeds; a
    drawing that fails is the answer, and leaves the samples where they are. The same holds of
    answers that come in in any other order, on the group as whatever it was used for in the
    meantime has left it. -/
theorem tick_accounts (hopen : s.shared.poisoned = false) (timeout : Nat) :
    (∃ fetched, s.Accounts timeout s.shared.group fetched (s.tick timeout).1.shared.group
      (s.tick timeout).2) ∧
    ∀ (H : Type) [Recorder H] (h : H) (between : List Action) (f : Flight) (later : Site),
      s.StopsWith timeout f → later.shared = .ofGroup (s.shared.group.run h between).group →
      ∃ fetched, s.Accounts timeout later.shared.group fetched (later.land f).1.shared.group
        (later.land f).2 := by
  constructor
  · obtain ⟨s', f, hf, hshared, htick⟩ := tick_eq_land hopen timeout
    rw [htick, ← hshared]
    refine land_accounts hf Trail.start [] ?_ ?_
    · rw [hshared, hopen]
    · rw [hshared]
      rfl
  · intro H _ h between f later hf hlater
    refine land_accounts hf h between ?_ ?_
    · rw [hlater]
      rfl
    · rw [hlater]
      rfl

/-- One fetch brings samples, one fails before that, and one does not settle in time. -/
theorem tick_accounts_mixed :
    (∃ fetched, (threeLines ⟨2, 1, 11⟩).Accounts 10 (threeLines ⟨2, 1, 11⟩).shared.group fetched
      ((threeLines ⟨2, 1, 11⟩).tick 10).1.shared.group ((threeLines ⟨2, 1, 11⟩).tick 10).2) ∧
    ∃ f fetched, (threeLines ⟨2, 1, 11⟩).StopsWith 10 f ∧
      (threeLines ⟨2, 1, 11⟩).Accounts 10 threeLinesLater.shared.group fetched
        (threeLinesLater.land f).1.shared.group (threeLinesLater.land f).2 ∧
      (threeLinesLater.land f).2 = .ok ⟨3, 2, 1, 1, true⟩ := by
  obtain ⟨htick, hland⟩ := tick_accounts (s := threeLines ⟨2, 1, 11⟩) rfl 10
  have hin : threeAnswers.take 2 = answersWithin 10 (threeLines ⟨2, 1, 11⟩).fetches := by
    decide +kernel
  have hf := stopsWith_of_perm (s := threeLines ⟨2, 1, 11⟩) rfl
    ((List.reverse_perm (threeAnswers.take 2)).trans (.of_eq hin))
  obtain ⟨fetched, haccounts⟩ :=
    hland Trail Trail.start [.append 0 0 ⟨1, 9⟩] _ threeLinesLater hf rfl
  exact ⟨htick, _, fetched, hf, haccounts, by decide +kernel⟩

end Site

end LinkedCharts
