import LinkedCharts.Proofs.Chart.Attempts
import LinkedCharts.Proofs.Group.Broadcast
import LinkedCharts.Proofs.History.Trail

/-!
# What a failure in the middle leaves

A window that is shown on the charts of a group gets as far as the first chart that refuses it. The
charts before that one show it, that one and those after it are as they were, and what was recorded
before stays recorded. A drawing of all charts likewise gets as far as the first one that fails.

Results:
* `Group.StopsAt`, `Group.Interrupted`: where a window stops, and what it leaves.
* `Group.StopsAt.pass`, `Group.stops_or_passes`: a window is stopped by the first chart that refuses
  it, or by none.
* `Group.userSet_unrecorded`, `Group.userSet_stopped`, `Group.userSet_unstopped`: what becomes of a
  user's window.
* `Group.navigated_stopped`, `Group.redraw_stopped`: states of the history, and drawings.
-/

namespace LinkedCharts

theorem Chart.ShowsInstead.kept {w : Window} {b c d : Chart} (h : ShowsInstead w b c)
    (hkept : c.Kept d) : ShowsInstead w b d := by
  rw [hkept]
  exact ⟨h.hasAxis, h.visible, h.full, h.series, h.settings, h.redraws, h.canvas, h.limitsZoom⟩

namespace Group

/-! ## Where a window stops -/

/-- A window that comes from `origin`, if it comes from a chart, is refused by the chart at `k`, and
    gets to it: no chart before it but the origin refuses a move. -/
structure StopsAt (g : Group) (origin : Option Nat) (k : Nat) (c : Chart) : Prop where
  chart : g.charts[k]? = some c
  refuses : c.Refuses
  other : origin ≠ some k
  first : ∀ i < k, ∀ d ∈ g.charts[i]?, origin ≠ some i → ¬ d.Refuses

instance (g : Group) (origin : Option Nat) (k : Nat) (c : Chart) :
    Decidable (g.StopsAt origin k c) :=
  decidable_of_iff (g.charts[k]? = some c ∧ c.Refuses ∧ origin ≠ some k ∧
      ∀ i < k, ∀ d ∈ g.charts[i]?, origin ≠ some i → ¬ d.Refuses)
    ⟨fun h => ⟨h.1, h.2.1, h.2.2.1, h.2.2.2⟩, fun h => ⟨h.chart, h.refuses, h.other, h.first⟩⟩

/-- The fault of a chart that refuses its next move. -/
def refusal (c : Chart) : Fault := .invalidData (.moveRefused c.moves.next.made)

/-- How many charts before the one at `k` a window from `origin` moves: those but the origin that
    have an axis and show another window. -/
def movedBefore (g : Group) (origin : Option Nat) (k : Nat) (w : Window) : Nat :=
  (g.charts.take k).zipIdx.countP fun p => origin ≠ some p.2 ∧ p.1.Elsewhere w

/-- What a window leaves that got as far as the chart at `k`, after this many were recorded. The
    charts before that one and the origin show it. All others are as they were. -/
structure Interrupted (g : Group) (origin : Option Nat) (k : Nat) (w : Window) (recorded : Nat)
    (after : Group) : Prop where
  shown : ∀ i c, g.charts[i]? = some c → i < k ∨ origin = some i →
    ∃ d, after.charts[i]? = some d ∧ Chart.ShowsInstead w c d
  kept : ∀ i c, g.charts[i]? = some c → ¬ (i < k ∨ origin = some i) →
    ∃ d, after.charts[i]? = some d ∧ c.Kept d
  length : after.charts.length = g.charts.length
  stats : after.stats = { g.stats with
    pushes := g.stats.pushes + recorded
    echoes := g.stats.echoes + g.movedBefore origin k w }
  id : after.id = g.id
  minimum : after.minimumSpan = g.minimumSpan
  suppressed : after.suppressed = false

variable {g : Group} {origin : Option Nat} {k : Nat} {c : Chart} {w : Window}

theorem follow_of_refused (h : c.Refuses) (w : Window) {index : Nat} (hne : origin ≠ some index) :
    follow w origin index c = ({ c with moves := c.moves.next }, .error (refusal c)) := by
  unfold follow
  rw [if_neg hne, View.moveTo_chart, Chart.moveTo_of_refused h]
  rfl

/-- A chart fails to follow just if it refuses to move and is not the origin. -/
theorem follow_isOk_iff (w : Window) (index : Nat) (c : Chart) :
    (follow w origin index c).2.isOk ↔ origin = some index ∨ ¬ c.Refuses := by
  by_cases ho : origin = some index
  · rw [ho, follow_origin]
    exact ⟨fun _ => Or.inl rfl, fun _ => rfl⟩
  · by_cases hr : c.Refuses
    · rw [follow_of_refused hr w ho]
      exact ⟨nofun, fun h => absurd hr (h.resolve_left ho)⟩
    · rw [follow_of_not_refused hr w ho]
      exact ⟨fun _ => Or.inr hr, fun _ => rfl⟩

/-- What a chart is after it followed a window that it does not refuse. -/
def followed (w : Window) (origin : Option Nat) (p : Chart × Nat) : Chart :=
  if origin = some p.2 then p.1 else p.1.shown w

/-- What following does to charts that do not fail. -/
theorem follow_of_isOk {index : Nat} (hok : (follow w origin index c).2.isOk) :
    (follow w origin index c).1 = followed w origin (c, index) ∧
      (SaysMoved (follow w origin index c).2 ↔ origin ≠ some index ∧ c.Elsewhere w) := by
  unfold followed
  by_cases ho : origin = some index
  · rw [ho, follow_origin, if_pos rfl]
    exact ⟨rfl, nofun, fun h => absurd rfl h.1⟩
  · have hr := ((follow_isOk_iff w index c).1 hok).resolve_left ho
    rw [follow_of_not_refused hr w ho, if_neg ho]
    refine ⟨rfl, ?_⟩
    by_cases he : c.Elsewhere w
    · rw [if_pos he]
      exact ⟨fun _ => ⟨ho, he⟩, fun _ => rfl⟩
    · rw [if_neg he]
      exact ⟨nofun, fun h => absurd h.2 he⟩

/-- What becomes of charts that a window reaches and that do not refuse it. -/
theorem front_followed {front : List Chart}
    (hok : ∀ p ∈ front.zipIdx, (follow w origin p.2 p.1).2.isOk) :
    (front.zipIdx.map fun p => (follow w origin p.2 p.1).1) =
        front.zipIdx.map (followed w origin) ∧
      front.zipIdx.countP (fun p => SaysMoved (follow w origin p.2 p.1).2) =
        front.zipIdx.countP fun p => origin ≠ some p.2 ∧ p.1.Elsewhere w := by
  constructor
  · exact List.map_congr_left fun p hp => (follow_of_isOk (hok p hp)).1
  · refine List.countP_congr fun p hp => ?_
    rw [(follow_of_isOk (hok p hp)).2, decide_eq_true_iff]

theorem StopsAt.split (h : g.StopsAt origin k c) :
    g.charts = g.charts.take k ++ c :: g.charts.drop (k + 1) := by
  obtain ⟨hk, hget⟩ := List.getElem?_eq_some_iff.1 h.chart
  rw [← hget, List.getElem_cons_drop, List.take_append_drop]

theorem StopsAt.length_take (h : g.StopsAt origin k c) : (g.charts.take k).length = k := by
  obtain ⟨hk, -⟩ := List.getElem?_eq_some_iff.1 h.chart
  rw [List.length_take]
  omega

/-- The charts before the one that refuses do not fail to follow. -/
theorem StopsAt.front_isOk (h : g.StopsAt origin k c) (w : Window) :
    ∀ p ∈ (g.charts.take k).zipIdx, (follow w origin p.2 p.1).2.isOk := by
  rintro ⟨d, i⟩ hp
  have hd := List.mk_mem_zipIdx_iff_getElem?.1 hp
  rw [List.getElem?_take] at hd
  split at hd
  · rename_i hi
    rw [follow_isOk_iff]
    exact or_iff_not_imp_left.2 fun hne => h.first i hi d hd hne
  · cases hd

theorem StopsAt.follow_eq (h : g.StopsAt origin k c) (w : Window) :
    follow w origin (0 + (g.charts.take k).length) c =
      ({ c with moves := c.moves.next }, .error (refusal c)) := by
  rw [h.length_take, Nat.zero_add]
  exact follow_of_refused h.refuses w h.other

/-- The pass of a window that a chart refuses. -/
theorem StopsAt.pass (h : g.StopsAt origin k c) (w : Window) :
    pass (follow w origin) 0 g.charts =
      ⟨(g.charts.take k).zipIdx.map (followed w origin) ++
          { c with moves := c.moves.next } :: g.charts.drop (k + 1),
        g.movedBefore origin k w, some (refusal c)⟩ := by
  obtain ⟨hcharts, hmoves⟩ := front_followed (h.front_isOk w)
  conv_lhs => rw [h.split]
  rw [pass_of_fault _ 0 (h.front_isOk w) (h.follow_eq w), hcharts, hmoves]
  rfl

/-- Charts that a window does not stop at all follow it. -/
theorem pass_of_accepted (hok : ∀ p ∈ g.charts.zipIdx, (follow w origin p.2 p.1).2.isOk) :
    Group.pass (follow w origin) 0 g.charts =
      ⟨g.charts.zipIdx.map (followed w origin),
        g.charts.zipIdx.countP fun p => origin ≠ some p.2 ∧ p.1.Elsewhere w, none⟩ := by
  obtain ⟨hcharts, hmoves⟩ := front_followed hok
  rw [pass_of_ok 0 hok, hcharts, hmoves]

/-- A window is stopped by the first chart that refuses it, or by none. -/
theorem stops_or_passes (g : Group) (origin : Option Nat) (w : Window) :
    (∃ k c, g.StopsAt origin k c) ∨
      ∀ p ∈ g.charts.zipIdx, (follow w origin p.2 p.1).2.isOk := by
  rcases pass_cases (follow w origin) 0 g.charts with hall | ⟨front, c, back, f, hsplit, hok, hf⟩
  · exact Or.inr hall
  · left
    rw [Nat.zero_add] at hf
    have hfail : ¬ (origin = some front.length ∨ ¬ c.Refuses) := by
      rw [← follow_isOk_iff w, hf]
      exact nofun
    obtain ⟨hne, hr⟩ := not_or.1 hfail
    refine ⟨front.length, c, ?_, not_not.1 hr, hne, ?_⟩
    · rw [hsplit, List.getElem?_append_right (Nat.le_refl _), Nat.sub_self]
      rfl
    · intro i hi d hd hother
      rw [hsplit, List.getElem?_append_left hi] at hd
      have hp := hok (d, i) (List.mk_mem_zipIdx_iff_getElem?.2 hd)
      exact ((follow_isOk_iff w i d).1 hp).resolve_left hother

/-- Where each chart is after a pass that a chart stops. -/
theorem StopsAt.reached (h : g.StopsAt origin k c) (w : Window) {i : Nat} {d : Chart}
    (hd : g.charts[i]? = some d) :
    (i < k ∧ (Group.pass (follow w origin) 0 g.charts).charts[i]? =
        some (followed w origin (d, i))) ∨
      (k ≤ i ∧ ∃ e, (Group.pass (follow w origin) 0 g.charts).charts[i]? = some e ∧ d.Kept e) := by
  have hcharts := pass_of_fault_getElem? (follow w origin) 0 (h.front_isOk w) (h.follow_eq w)
    (g.charts.drop (k + 1)) i
  rw [← h.split, h.length_take, hd, Nat.zero_add] at hcharts
  rcases Nat.lt_trichotomy i k with hlt | rfl | hgt
  · have hmem : (d, i) ∈ (g.charts.take k).zipIdx := by
      rw [List.mk_mem_zipIdx_iff_getElem?, List.getElem?_take_of_lt hlt]
      exact hd
    rw [if_pos (Nat.le_of_lt hlt)] at hcharts
    refine Or.inl ⟨hlt, hcharts.trans ?_⟩
    exact congrArg some (follow_of_isOk (h.front_isOk w _ hmem)).1
  · obtain rfl := Option.some.inj (h.chart.symm.trans hd)
    rw [if_pos (Nat.le_refl _), Option.map_some, follow_of_refused h.refuses w h.other] at hcharts
    exact Or.inr ⟨Nat.le_refl _, _, hcharts, c.kept_moves _⟩
  · rw [if_neg (Nat.not_le.2 hgt)] at hcharts
    exact Or.inr ⟨Nat.le_of_lt hgt, d, hcharts, .refl d⟩

/-- The charts of a group once the one that a window comes from shows it. -/
structure Departed (g : Group) (origin : Option Nat) (w : Window) (charts : List Chart) : Prop where
  source : ∀ i c, origin = some i → g.charts[i]? = some c →
    ∃ d, charts[i]? = some d ∧ Chart.ShowsInstead w c d
  others : ∀ i, origin ≠ some i → charts[i]? = g.charts[i]?
  length : charts.length = g.charts.length

/-- A window that comes from no chart. -/
theorem Departed.of_none (g : Group) (w : Window) : g.Departed none w g.charts := by
  refine ⟨?_, fun _ _ => rfl, rfl⟩
  rintro i c ⟨⟩

theorem Departed.of_set {i : Nat} (hc : g.charts[i]? = some c) (hw : w.Ordered) :
    g.Departed (some i) w (g.charts.set i (c.shown w)) := by
  obtain ⟨hi, -⟩ := List.getElem?_eq_some_iff.1 hc
  refine ⟨?_, fun j hj => List.getElem?_set_ne fun h => hj (congrArg some h), List.length_set⟩
  rintro j d ⟨⟩ hd
  obtain rfl := Option.some.inj (hc.symm.trans hd)
  exact ⟨_, List.getElem?_set_self hi, Chart.shown_showsInstead hw c⟩

section Departed

variable {charts : List Chart}

theorem Departed.stopsAt_iff (hdep : g.Departed origin w charts) :
    StopsAt { g with charts } origin k c ↔ g.StopsAt origin k c := by
  constructor
  · intro h
    exact ⟨(hdep.others k h.other).symm.trans h.chart, h.refuses, h.other,
      fun i hi d hd hne => h.first i hi d ((hdep.others i hne).trans hd) hne⟩
  · intro h
    exact ⟨(hdep.others k h.other).trans h.chart, h.refuses, h.other,
      fun i hi d hd hne => h.first i hi d ((hdep.others i hne).symm.trans hd) hne⟩

theorem Departed.movedBefore (hdep : g.Departed origin w charts) (k : Nat) :
    Group.movedBefore { g with charts } origin k w = g.movedBefore origin k w := by
  let moves (p : Chart × Nat) : Bool := decide (origin ≠ some p.2 ∧ p.1.Elsewhere w)
  -- the origin counts for neither, and all other charts are the same
  have heach : (charts.take k).zipIdx.map moves = (g.charts.take k).zipIdx.map moves := by
    refine List.ext_getElem? fun i => ?_
    simp only [List.getElem?_map, List.getElem?_zipIdx, List.getElem?_take, Nat.zero_add]
    by_cases ho : origin = some i
    · have hfalse : ∀ d, moves (d, i) = false := fun d => decide_eq_false fun h => h.1 ho
      rcases Nat.lt_or_ge i charts.length with hi | hi
      · have hi' : i < g.charts.length := by rwa [← hdep.length]
        rw [List.getElem?_eq_getElem hi, List.getElem?_eq_getElem hi']
        split
        · simp only [Option.map_some, hfalse]
        · rfl
      · have hi' : g.charts.length ≤ i := by rwa [← hdep.length]
        rw [List.getElem?_eq_none hi, List.getElem?_eq_none hi']
    · rw [hdep.others i ho]
  have hcount : ∀ l : List (Chart × Nat), l.countP moves = (l.map moves).countP (·) := fun l => by
    rw [List.countP_map]
    rfl
  show (charts.take k).zipIdx.countP moves = (g.charts.take k).zipIdx.countP moves
  rw [hcount, hcount, heach]

/-- What a window leaves that goes no further than the chart it comes from. -/
theorem Departed.interrupted (hdep : g.Departed origin w charts) (hopen : g.suppressed = false) :
    g.Interrupted origin 0 w 0 { g with charts } where
  shown := fun i c hc hi => hdep.source i c (hi.resolve_left (Nat.not_lt_zero i)) hc
  kept := fun i c hc hi => ⟨c, (hdep.others i fun ho => hi (Or.inr ho)).trans hc, .refl c⟩
  length := hdep.length
  stats := rfl
  id := rfl
  minimum := rfl
  suppressed := hopen

/-- What a window leaves that a chart stops. -/
theorem Departed.stopped (hdep : g.Departed origin w charts) (hopen : g.suppressed = false)
    (hw : w.Ordered) (h : g.StopsAt origin k c) (recorded : Nat) :
    g.Interrupted origin k w recorded { g with
      charts := (Group.pass (follow w origin) 0 charts).charts
      stats := { g.stats with
        pushes := g.stats.pushes + recorded
        echoes := g.stats.echoes + (Group.pass (follow w origin) 0 charts).moves } } := by
  have hstop := hdep.stopsAt_iff.2 h
  have hpass := hstop.pass w
  refine ⟨?_, ?_, ?_, ?_, rfl, rfl, hopen⟩
  · intro i d hd hi
    by_cases ho : origin = some i
    · obtain ⟨e, he, hshows⟩ := hdep.source i d ho hd
      rcases hstop.reached w he with ⟨-, hreached⟩ | ⟨-, e', hreached, hkept⟩
      · rw [followed, if_pos ho] at hreached
        exact ⟨e, hreached, hshows⟩
      · exact ⟨e', hreached, hshows.kept hkept⟩
    · rcases hstop.reached w ((hdep.others i ho).trans hd) with ⟨-, hreached⟩ | ⟨hle, -⟩
      · rw [followed, if_neg ho] at hreached
        exact ⟨_, hreached, Chart.shown_showsInstead hw d⟩
      · exact absurd (hi.resolve_right ho) (Nat.not_lt.2 hle)
  · intro i d hd hi
    obtain ⟨hle, ho⟩ := not_or.1 hi
    rcases hstop.reached w ((hdep.others i ho).trans hd) with ⟨hlt, -⟩ | ⟨-, hkept⟩
    · exact absurd hlt hle
    · exact hkept
  · rw [← hdep.length]
    exact pass_length _ 0 charts
  · show ({ g.stats with pushes := _, echoes := g.stats.echoes + _ } : Stats) = _
    rw [hpass, hdep.movedBefore]

end Departed

/-! ## Calls that are stopped -/

section Calls

variable {H : Type} [Recorder H] {h h' : H} {source : Nat}

/-- A user's window on a chart that accepts it, in a history that takes it. -/
theorem userSet_of_push {moved : Bool} (hopen : g.suppressed = false)
    (hc : g.charts[source]? = some c)
    (hm : (c.moveTo (w.widenedTo g.effectiveMinimum)).2 = .ok moved)
    (hp : Recorder.push h ⟨g.id, w.widenedTo g.effectiveMinimum⟩ = (h', .ok ())) :
    g.userSet h source w =
      (let v := w.widenedTo g.effectiveMinimum
       let s := Group.pass (follow v (some source)) 0 (g.charts.set source (c.shown v))
       ({ g with charts := s.charts, stats := g.stats.countPush.addEchoes s.moves }, h',
         s.answer.map .broadcast)) := by
  obtain ⟨hlt, -⟩ := List.getElem?_eq_some_iff.1 hc
  rw [userSet_of_accepted hc hm, View.moveTo_chart, Chart.moveTo_of_ok hm]
  generalize w.widenedTo g.effectiveMinimum = v at hp ⊢
  exact notify_of_push (g := { g with charts := g.charts.set source (c.shown v) })
    (by simpa using hlt) hopen hp

/-- A user's window that the history refuses has moved the chart it was chosen on, and nothing
    else. -/
theorem userSet_unrecorded {f : Fault} {moved : Bool} (hopen : g.suppressed = false)
    (hw : w.Ordered) (hc : g.charts[source]? = some c)
    (hm : (c.moveTo (w.widenedTo g.effectiveMinimum)).2 = .ok moved)
    (hp : Recorder.push h ⟨g.id, w.widenedTo g.effectiveMinimum⟩ = (h', .error f)) :
    (g.userSet h source w).2 = (h', .error f) ∧
      g.Interrupted (some source) 0 (w.widenedTo g.effectiveMinimum) 0
        (g.userSet h source w).1 := by
  obtain ⟨hlt, -⟩ := List.getElem?_eq_some_iff.1 hc
  have hdep := Departed.of_set hc (hw.widenedTo g.effectiveMinimum)
  rw [userSet_of_accepted hc hm, View.moveTo_chart, Chart.moveTo_of_ok hm]
  generalize w.widenedTo g.effectiveMinimum = v at hp hdep ⊢
  rw [notify_of_refused (g := { g with charts := g.charts.set source (c.shown v) })
    (by simpa using hlt) hopen hp]
  exact ⟨rfl, hdep.interrupted hopen⟩

/-- A user's window that is recorded and that a chart stops has moved the charts before it. -/
theorem userSet_stopped {moved : Bool} {d : Chart} (hopen : g.suppressed = false)
    (hw : w.Ordered) (hc : g.charts[source]? = some c)
    (hm : (c.moveTo (w.widenedTo g.effectiveMinimum)).2 = .ok moved)
    (hp : Recorder.push h ⟨g.id, w.widenedTo g.effectiveMinimum⟩ = (h', .ok ()))
    (hstop : g.StopsAt (some source) k d) :
    (g.userSet h source w).2 = (h', .error (refusal d)) ∧
      g.Interrupted (some source) k (w.widenedTo g.effectiveMinimum) 1
        (g.userSet h source w).1 := by
  have hdep := Departed.of_set hc (hw.widenedTo g.effectiveMinimum)
  have hpass := (hdep.stopsAt_iff.2 hstop).pass (w.widenedTo g.effectiveMinimum)
  rw [userSet_of_push hopen hc hm hp]
  refine ⟨?_, hdep.stopped hopen (hw.widenedTo _) hstop 1⟩
  dsimp only at hpass ⊢
  rw [hpass]
  rfl

theorem shown_of_followed (charts : List Chart) (w : Window) :
    charts.zipIdx.map (followed w none) = charts.map (·.shown w) := by
  refine List.ext_getElem? fun i => ?_
  rw [List.getElem?_map, List.getElem?_zipIdx, List.getElem?_map, Option.map_map]
  rfl

theorem shown_of_followed_set {charts : List Chart} (hc : charts[source]? = some c) (w : Window) :
    (charts.set source (c.shown w)).zipIdx.map (followed w (some source)) =
      charts.map (·.shown w) := by
  obtain ⟨hlt, -⟩ := List.getElem?_eq_some_iff.1 hc
  refine List.ext_getElem? fun i => ?_
  rw [List.getElem?_map, List.getElem?_zipIdx, List.getElem?_map, Nat.zero_add]
  by_cases hi : source = i
  · subst hi
    rw [List.getElem?_set_self hlt, hc]
    exact congrArg some (if_pos rfl)
  · rw [List.getElem?_set_ne hi, Option.map_map]
    exact congrArg (Option.map · charts[i]?)
      (funext fun d => if_neg fun h => hi (Option.some.inj h))

/-- A user's window that no chart stops is shown by all charts. -/
theorem userSet_unstopped {moved : Bool} (hopen : g.suppressed = false) (hw : w.Ordered)
    (hc : g.charts[source]? = some c)
    (hm : (c.moveTo (w.widenedTo g.effectiveMinimum)).2 = .ok moved)
    (hp : Recorder.push h ⟨g.id, w.widenedTo g.effectiveMinimum⟩ = (h', .ok ()))
    (hnone : ¬ ∃ k d, g.StopsAt (some source) k d) :
    (∃ what, (g.userSet h source w).2.2 = .ok what) ∧
      (g.userSet h source w).1.charts =
        g.charts.map (·.shown (w.widenedTo g.effectiveMinimum)) := by
  have hdep := Departed.of_set hc (hw.widenedTo g.effectiveMinimum)
  rw [userSet_of_push hopen hc hm hp]
  generalize w.widenedTo g.effectiveMinimum = v at hdep ⊢
  rcases stops_or_passes { g with charts := g.charts.set source (c.shown v) } (some source) v with
    ⟨k, d, hstop⟩ | hok
  · exact absurd ⟨k, d, hdep.stopsAt_iff.1 hstop⟩ hnone
  · have hpass := pass_of_accepted hok
    dsimp only at hpass ⊢
    rw [hpass]
    exact ⟨⟨_, rfl⟩, shown_of_followed_set hc v⟩

/-- A user's window that is answered well is shown by all charts. -/
theorem userSet_shown {what : Outcome} (hopen : g.suppressed = false) (hw : w.Ordered)
    (hok : (g.userSet h source w).2.2 = .ok what) :
    (g.userSet h source w).1.charts = g.charts.map (·.shown (w.widenedTo g.effectiveMinimum)) := by
  rcases Nat.lt_or_ge source g.charts.length with hlt | hle
  · have hc := List.getElem?_eq_getElem hlt
    cases hm : (View.moveTo g.charts[source] (w.widenedTo g.effectiveMinimum)).2 with
    | error f =>
      rw [userSet_of_refused hc hm] at hok
      cases hok
    | ok moved =>
      rcases hp : Recorder.push h ⟨g.id, w.widenedTo g.effectiveMinimum⟩ with ⟨h', f | ⟨⟩⟩
      · rw [(userSet_unrecorded hopen hw hc hm hp).1] at hok
        cases hok
      · by_cases hstop : ∃ k d, g.StopsAt (some source) k d
        · obtain ⟨k, d, hstop⟩ := hstop
          rw [(userSet_stopped hopen hw hc hm hp hstop).1] at hok
          cases hok
        · exact (userSet_unstopped hopen hw hc hm hp hstop).2
  · rw [userSet_of_le hle] at hok
    cases hok

end Calls

section Navigation

variable {state : Json.Value} {e : Entry}

/-- A state of the group's own that a chart stops has moved the charts before it. -/
theorem navigated_stopped (hopen : g.suppressed = false) (he : Entry.ofState? state = some e)
    (hid : e.group = g.id) (hstop : g.StopsAt none k c) :
    (g.navigated state).2 = .error (refusal c) ∧
      g.Interrupted none k e.window 0 (g.navigated state).1 := by
  have hordered := (Entry.ofState?_wellFormed he).window.ordered
  have hfault : (Group.pass (follow e.window none) 0 g.charts).fault = some (refusal c) := by
    rw [hstop.pass]
  rw [navigated_of_own he hid]
  dsimp only
  rw [hfault]
  exact ⟨rfl, (Departed.of_none g e.window).stopped hopen hordered hstop 0⟩

/-- A state of the group's own that no chart stops is shown by all charts. -/
theorem navigated_unstopped (he : Entry.ofState? state = some e) (hid : e.group = g.id)
    (hnone : ¬ ∃ k c, g.StopsAt none k c) :
    (g.navigated state).2 = .ok true ∧
      (g.navigated state).1.charts = g.charts.map (·.shown e.window) := by
  have hok := (stops_or_passes g none e.window).resolve_left hnone
  rw [navigated_of_own he hid, pass_of_accepted hok]
  exact ⟨rfl, shown_of_followed g.charts e.window⟩

end Navigation

/-- A drawing of all charts that fails has drawn the charts before the one that fails, and not got
    to those after it. -/
theorem redraw_stopped {f : Fault} (hf : g.redraw.2 = .error f) :
    ∃ (k : Nat) (c : Chart), g.charts[k]? = some c ∧ c.redraw.2 = .error f ∧
      (∀ i ≤ k, g.redraw.1.charts[i]? = g.charts[i]?.map fun d : Chart => d.redraw.1) ∧
      (∀ i, k < i → g.redraw.1.charts[i]? = g.charts[i]?) ∧
      g.redraw.1.stats.passes = g.stats.passes := by
  rcases pass_cases (fun _ (c : Chart) => View.redraw c) 0 g.charts with
    hall | ⟨front, c, back, f', hsplit, hok, hfail⟩
  · rw [redraw_eq, pass_of_ok 0 hall] at hf
    cases hf
  · have hact : View.redraw c = ((View.redraw c).1, .error f') := Prod.ext rfl hfail
    have hpass := pass_of_fault (fun _ (c : Chart) => View.redraw c) 0 hok hact back
    have hcharts := pass_of_fault_getElem? (fun _ (c : Chart) => View.redraw c) 0 hok hact back
    rw [← hsplit] at hpass hcharts
    rw [← redraw_charts] at hcharts
    have hsame : f' = f := by
      rw [redraw_eq, hpass] at hf
      exact Except.error.inj hf
    have hpasses : g.redraw.1.stats.passes = g.stats.passes := by
      rw [redraw_fst, hpass]
      rfl
    refine ⟨front.length, c, ?_, hsame ▸ hfail, ?_, ?_, hpasses⟩
    · rw [hsplit, List.getElem?_append_right (Nat.le_refl _), Nat.sub_self]
      rfl
    · intro i hi
      rw [hcharts i, if_pos hi]
      rfl
    · intro i hi
      rw [hcharts i, if_neg (Nat.not_le.2 hi)]

theorem redraw_suppressed (g : Group) : g.redraw.1.suppressed = g.suppressed := by
  rw [redraw_fst]

end Group

end LinkedCharts
