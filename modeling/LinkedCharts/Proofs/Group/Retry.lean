import LinkedCharts.Proofs.Group.Interrupted
import LinkedCharts.Proofs.Group.Steps

/-!
# Trying again

A window that did not get through has left every chart as it was or as it is to be. So the same
call, made until it succeeds, leaves what one call leaves that succeeds at once.

Results:
* `Group.Counterpart`: the same group, which may have seen other attempts.
* `Group.Halfway`: every chart is as it was or as it is to be.
* `Group.interrupted_calls_heal`: what calls that fail leave, and what trying again leaves.
-/

namespace LinkedCharts

namespace Group

variable {g : Group} {w : Window}

/-! ## Charts on the way -/

/-- The same group, over charts that have seen other moves and may refuse others. -/
structure Counterpart (b g : Group) : Prop where
  charts : List.Forall₂ Chart.Kept b.charts g.charts
  id : g.id = b.id
  minimum : g.minimumSpan = b.minimumSpan
  openThere : b.suppressed = false
  openHere : g.suppressed = false

/-- Every chart is as it is in the first group, or as it is to be. -/
structure Halfway (w : Window) (b g : Group) : Prop where
  charts : List.Forall₂ (Chart.Halfway w) b.charts g.charts
  id : g.id = b.id
  minimum : g.minimumSpan = b.minimumSpan
  suppressed : g.suppressed = false

theorem Counterpart.halfway {b : Group} (h : b.Counterpart g) (w : Window) : Halfway w b g :=
  ⟨h.charts.imp fun _ _ => Or.inl, h.id, h.minimum, h.openHere⟩

theorem Halfway.effectiveMinimum {b : Group} (h : Halfway w b g) :
    g.effectiveMinimum = b.effectiveMinimum := by
  have hspans : g.charts.map View.minimumSpan = b.charts.map View.minimumSpan := by
    have hpairs : List.Forall₂ Eq (g.charts.map View.minimumSpan)
        (b.charts.map View.minimumSpan) := by
      rw [List.forall₂_map_left_iff, List.forall₂_map_right_iff]
      exact (h.charts.imp fun _ _ hc => hc.minimumSpan).flip
    rwa [List.forall₂_eq_eq_eq] at hpairs
  unfold Group.effectiveMinimum
  rw [hspans, h.minimum]

section Again

variable {H : Type} [Recorder H] {b : Group} {v : Window}

/-- A report of the window leaves every chart halfway. -/
theorem Halfway.notify (hh : Halfway v b g) (hv : v.Ordered) (h : H) (origin : Nat) :
    Halfway v b (g.notify h origin v).1 := by
  rw [notify_eq]
  split
  · exact hh
  · split
    · exact ⟨hh.charts, hh.id, hh.minimum, hh.suppressed⟩
    · rcases Recorder.push h ⟨g.id, v⟩ with ⟨h', f | ⟨⟩⟩
      · exact hh
      · dsimp only
        rw [spread_eq]
        exact ⟨pass_follow_stable (fun _ _ hc => hc.moveTo hv) _ 0 hh.charts, hh.id, hh.minimum,
          hh.suppressed⟩

/-- The same window of a user, whatever it is answered, leaves every chart halfway. -/
theorem Halfway.userSet (hw : w.Ordered) (hh : Halfway (w.widenedTo b.effectiveMinimum) b g) (h : H)
    (source : Nat) : Halfway (w.widenedTo b.effectiveMinimum) b (g.userSet h source w).1 := by
  have hv := hw.widenedTo b.effectiveMinimum
  have hwidened : w.widenedTo g.effectiveMinimum = w.widenedTo b.effectiveMinimum := by
    rw [hh.effectiveMinimum]
  unfold Group.userSet
  rw [hwidened]
  generalize w.widenedTo b.effectiveMinimum = v at hh hv
  dsimp only
  rcases Nat.lt_or_ge source g.charts.length with hlt | hle
  · have hc := List.getElem?_eq_getElem hlt
    have hmoved : Halfway v b { g with
        charts := g.charts.set source (View.moveTo g.charts[source] v).1 } :=
      ⟨forall₂_set hh.charts hc fun _ hb => hb.moveTo hv, hh.id, hh.minimum, hh.suppressed⟩
    rw [onChart_of_getElem? hc]
    split
    · rename_i heq
      obtain ⟨rfl, -⟩ := Prod.mk.inj heq
      exact hmoved
    · rename_i heq
      obtain ⟨rfl, -⟩ := Prod.mk.inj heq
      exact hmoved.notify hv h source
  · rw [onChart_of_le hle]
    exact hh

/-- The same state of the history, whatever it is answered, leaves every chart halfway. -/
theorem Halfway.navigated {state : Json.Value} {e : Entry} (he : Entry.ofState? state = some e)
    (hh : Halfway e.window b g) : Halfway e.window b (g.navigated state).1 := by
  have hordered := (Entry.ofState?_wellFormed he).window.ordered
  rcases g.navigated_cases state with heq | ⟨e', he', -, heq⟩
  · rw [heq]
    exact hh
  · obtain rfl := Option.some.inj (he.symm.trans he')
    rw [heq]
    exact ⟨pass_follow_stable (fun _ _ hc => hc.moveTo hordered) none 0 hh.charts, hh.id,
      hh.minimum, hh.suppressed⟩

/-- What a call keeps, it keeps however often it is made. -/
theorem run_replicate {P : Group → Prop} {a : Action}
    (hact : ∀ (g : Group) (h : H), P g → P (g.act h a).1) (n : Nat) {g : Group} (hg : P g) (h : H) :
    P (g.run h (List.replicate n a)).group := by
  induction n generalizing g h with
  | zero => exact hg
  | succ n ih => exact ih (hact g h hg) (g.act h a).2.1

/-- Once all charts show the window, each is as it is to be. -/
theorem Halfway.shown {after after' : Group} (hh : Halfway v b g) (hv : v.Ordered)
    (hb : after.charts = b.charts.map (·.shown v)) (hg : after'.charts = g.charts.map (·.shown v)) :
    List.Forall₂ Chart.Kept after.charts after'.charts := by
  rw [hb, hg, List.forall₂_map_left_iff, List.forall₂_map_right_iff]
  exact hh.charts.imp fun _ _ hc => hc.shown hv

/-- A window of a user that is tried again until it succeeds leaves what it leaves if it succeeds at
    once. -/
theorem userSet_again (hpair : b.Counterpart g) (hw : w.Ordered) (h h₀ : H) (source n : Nat) :
    let tried := g.run h (List.replicate n (.userSet source w))
    ∀ once again, (b.userSet h₀ source w).2.2 = .ok once →
      (tried.group.userSet tried.history source w).2.2 = .ok again →
      List.Forall₂ Chart.Kept (b.userSet h₀ source w).1.charts
        (tried.group.userSet tried.history source w).1.charts := by
  intro tried once again honce hagain
  have hhalf : Halfway (w.widenedTo b.effectiveMinimum) b tried.group :=
    run_replicate (fun g h hg => hg.userSet hw h source) n (hpair.halfway _) h
  refine hhalf.shown (hw.widenedTo _) (userSet_shown hpair.openThere hw honce) ?_
  rw [userSet_shown hhalf.suppressed hw hagain, hhalf.effectiveMinimum]

/-- A state of the history that is delivered again until that succeeds leaves what it leaves if it
    succeeds at once. -/
theorem navigated_again {state : Json.Value} {e : Entry} (hpair : b.Counterpart g)
    (he : Entry.ofState? state = some e) (hid : e.group = g.id) (h : H) (n : Nat) :
    let tried := g.run h (List.replicate n (.navigated state))
    (b.navigated state).2 = .ok true → (tried.group.navigated state).2 = .ok true →
      List.Forall₂ Chart.Kept (b.navigated state).1.charts
        (tried.group.navigated state).1.charts := by
  intro tried honce hagain
  have hordered := (Entry.ofState?_wellFormed he).window.ordered
  have hhalf : Halfway e.window b tried.group :=
    run_replicate (fun g h hg => hg.navigated he) n (hpair.halfway e.window) h
  have hids : e.group = tried.group.id := hid.trans (hpair.id.trans hhalf.id.symm)
  have hshown : ∀ {k : Group}, k.suppressed = false → e.group = k.id →
      (k.navigated state).2 = .ok true →
      (k.navigated state).1.charts = k.charts.map (·.shown e.window) := by
    intro k hopen hk hok
    by_cases hstop : ∃ i c, k.StopsAt none i c
    · obtain ⟨i, c, hstop⟩ := hstop
      rw [(navigated_stopped hopen he hk hstop).1] at hok
      cases hok
    · exact (navigated_unstopped he hk hstop).2
  exact hhalf.shown hordered (hshown hpair.openThere (hid.trans hpair.id) honce)
    (hshown hhalf.suppressed hids hagain)

end Again

/-! ## The calls of a group -/

/-- What calls that fail half-way leave, and what trying again leaves. A user's window that the
    chart it is chosen on accepts, but the history does not, has moved that chart and nothing else,
    and counts for nothing. If the history takes it and a chart stops it, it is recorded once, and
    it has moved the charts before that one. Likewise a window that is restored. A drawing of all
    charts that fails has not got to the charts after the one that failed. No such call leaves
    echoes suppressed. The trail of a journal gets one state more, or none if the journal refuses
    it. And the same window, or the same state of the history, tried any number of
    times until it succeeds, leaves all charts as they are left if it succeeds at once. -/
theorem interrupted_calls_heal {H : Type} [Recorder H] {g : Group} (hopen : g.suppressed = false)
    (h : H) :
    (∀ source w (c : Chart) moved, w.Ordered → g.charts[source]? = some c →
      (c.moveTo (w.widenedTo g.effectiveMinimum)).2 = .ok moved →
      let v := w.widenedTo g.effectiveMinimum
      let result := g.userSet h source w
      (∀ h' f, Recorder.push h ⟨g.id, v⟩ = (h', .error f) →
        result.2 = (h', .error f) ∧ g.Interrupted (some source) 0 v 0 result.1) ∧
      (∀ h', Recorder.push h ⟨g.id, v⟩ = (h', .ok ()) →
        (∀ k d, g.StopsAt (some source) k d →
          result.2 = (h', .error (refusal d)) ∧ g.Interrupted (some source) k v 1 result.1) ∧
        ((¬ ∃ k d, g.StopsAt (some source) k d) → ∃ what, result.2.2 = .ok what))) ∧
    (∀ state e, Entry.ofState? state = some e → e.group = g.id →
      (∀ k d, g.StopsAt none k d → (g.navigated state).2 = .error (refusal d) ∧
        g.Interrupted none k e.window 0 (g.navigated state).1) ∧
      ((¬ ∃ k d, g.StopsAt none k d) → (g.navigated state).2 = .ok true)) ∧
    (∀ f, g.redraw.2 = .error f → ∃ (k : Nat) (c : Chart), g.charts[k]? = some c ∧
      c.redraw.2 = .error f ∧
      (∀ i ≤ k, g.redraw.1.charts[i]? = g.charts[i]?.map fun d : Chart => d.redraw.1) ∧
      (∀ i, k < i → g.redraw.1.charts[i]? = g.charts[i]?) ∧
      g.redraw.1.stats.passes = g.stats.passes ∧ g.redraw.1.suppressed = false) ∧
    (∀ (j j' : Journal) e, (Recorder.push j e = (j', .ok ()) → j'.trail = j.trail.push e.toState) ∧
      ∀ f, Recorder.push j e = (j', .error f) → j'.trail = j.trail) ∧
    (∀ (b : Group), b.Counterpart g → ∀ (h₀ : H) source w n, w.Ordered →
      let tried := g.run h (List.replicate n (.userSet source w))
      ∀ once again, (b.userSet h₀ source w).2.2 = .ok once →
        (tried.group.userSet tried.history source w).2.2 = .ok again →
        List.Forall₂ Chart.Kept (b.userSet h₀ source w).1.charts
          (tried.group.userSet tried.history source w).1.charts) ∧
    (∀ (b : Group), b.Counterpart g → ∀ state e n, Entry.ofState? state = some e →
      e.group = g.id →
      let tried := g.run h (List.replicate n (.navigated state))
      (b.navigated state).2 = .ok true → (tried.group.navigated state).2 = .ok true →
        List.Forall₂ Chart.Kept (b.navigated state).1.charts
          (tried.group.navigated state).1.charts) := by
  refine ⟨?_, ?_, ?_, fun j j' e => ⟨Journal.trail_of_push,
    fun f => Journal.trail_of_push_refused⟩, ?_, ?_⟩
  · intro source w c moved hw hc hm v result
    refine ⟨fun h' f hp => userSet_unrecorded hopen hw hc hm hp, fun h' hp => ⟨?_, ?_⟩⟩
    · exact fun k d hstop => userSet_stopped hopen hw hc hm hp hstop
    · exact fun hnone => (userSet_unstopped hopen hw hc hm hp hnone).1
  · intro state e he hid
    exact ⟨fun k d hstop => navigated_stopped hopen he hid hstop,
      fun hnone => (navigated_unstopped he hid hnone).1⟩
  · intro f hf
    obtain ⟨k, c, hc, hfail, hbefore, hafter, hpasses⟩ := redraw_stopped hf
    exact ⟨k, c, hc, hfail, hbefore, hafter, hpasses, g.redraw_suppressed.trans hopen⟩
  · exact fun b hpair h₀ source w n hw => userSet_again hpair hw h h₀ source n
  · exact fun b hpair state e n he hid => navigated_again hpair he hid h n

/-- Charts in a row of which one has no axis and the one after it refuses some moves. -/
def rowOfCharts (refused : List Nat) : Group :=
  ⟨⟨"load"⟩, [.showing ⟨0, 10⟩ [], { Chart.showing ⟨0, 1⟩ [] with axis := none },
    .showing ⟨0, 6⟩ [], .showing ⟨0, 10⟩ refused, .showing ⟨0, 10⟩ []], false, 1, .none⟩

/-- A window that the row stops twice, and that then gets through. -/
theorem interrupted_calls_heal_row :
    ((rowOfCharts [1, 2]).userSet Trail.start 0 ⟨2, 4⟩).2.2 =
      .error (.invalidData (.moveRefused 1)) ∧
    ((rowOfCharts [1, 2]).userSet Trail.start 0 ⟨2, 4⟩).1.stats = ⟨1, 1, 0, 0⟩ ∧
    (let tried := (rowOfCharts [1, 2]).run Trail.start (List.replicate 2 (.userSet 0 ⟨2, 4⟩))
     List.Forall₂ Chart.Kept ((rowOfCharts []).userSet Trail.start 0 ⟨2, 4⟩).1.charts
       (tried.group.userSet tried.history 0 ⟨2, 4⟩).1.charts) := by
  obtain ⟨hset, -, -, -, hagain, -⟩ :=
    interrupted_calls_heal (g := rowOfCharts [1, 2]) rfl Trail.start
  obtain ⟨-, hrecorded⟩ := hset 0 ⟨2, 4⟩ (.showing ⟨0, 10⟩ []) true (by decide +kernel) rfl
    (by decide +kernel)
  obtain ⟨hstopped, -⟩ := hrecorded _ rfl
  obtain ⟨hanswer, hleft⟩ := hstopped 3 (.showing ⟨0, 10⟩ [1, 2]) (by decide +kernel)
  refine ⟨congrArg Prod.snd hanswer, hleft.stats.trans (by decide +kernel), ?_⟩
  have hpair : (rowOfCharts []).Counterpart (rowOfCharts [1, 2]) :=
    ⟨by decide +kernel, rfl, rfl, rfl, rfl⟩
  exact hagain (rowOfCharts []) hpair Trail.start 0 ⟨2, 4⟩ 2 (by decide +kernel)
    (.broadcast 3) (.broadcast 2) (by decide +kernel) (by decide +kernel)

end Group

end LinkedCharts
