import LinkedCharts.Proofs.Group.Following

/-!
# What drawings tell the group

A chart brings its axis in line with its data before it draws, and tells that its window has moved
when it has drawn. If the canvas refuses the drawing the window has moved all the same, and nobody
is told: the next drawing finds the axis in line already. So the windows that drawings have moved
are those that the group has heard of and those that went with a refused drawing.

Results:
* `Group.logged`, `Group.notices`: what the charts report while all of them are drawn.
* `Chart.Shifted`, `Chart.Drawn`, `Chart.redraw_told`: a drawing tells of its move if it succeeds.
* `Group.notices_eq`: what the group hears of one drawing of all charts.
* `Group.moves_are_told_or_lost`: over a whole run every move is told once, or lost.
* `Group.redraw_loses_notice`: a run that ends well, and a move that was never told.
-/

namespace LinkedCharts

/-! ## Reports that are logged -/

namespace Group

variable {V H : Type}

/-- A report that is also put down in a list, with the chart that it comes from. -/
def logged (report : Report V H) : Report V (H × List (Nat × Window)) :=
  fun g h index w =>
    let (after, history, answer) := report g h.1 index w
    (after, (history, h.2 ++ [(index, w)]), answer)

theorem logged_echoes {report : Report V H} (he : Echoes report) :
    EchoesNoting (fun h index w => (h.1, h.2 ++ [(index, w)])) (logged report) := by
  intro g h index w hs hi
  unfold logged
  rw [he g h.1 index w hs hi]

theorem foldl_log (h : H) (log reports : List (Nat × Window)) :
    reports.foldl (fun h r => (h.1, h.2 ++ [(r.1, r.2)])) (h, log) = (h, log ++ reports) := by
  induction reports generalizing log with
  | nil => rw [List.foldl_nil, List.append_nil]
  | cons r rest ih => rw [List.foldl_cons, ih, List.append_assoc, List.singleton_append]

/-- With the log, a sweep does what it does without. -/
theorem sweepAll_logged {report : Report V H} (he : Echoes report)
    (act : Nat → V → V × Except Fault (Option Window)) (g : Group V) (h : H)
    (log : List (Nat × Window)) :
    g.sweepAll (logged report) act (h, log) =
      ((g.sweepAll report act h).1, ((g.sweepAll report act h).2.1, log ++ reported act 0 g.charts),
        (g.sweepAll report act h).2.2) := by
  rw [sweepAll_noting (logged_echoes he), sweepAll_eq he, foldl_log]

/-- A pass counts as many moves as charts report. -/
theorem pass_moves (act : Nat → V → V × Except Fault (Option Window)) (index : Nat) (cs : List V) :
    (pass act index cs).moves = (reported act index cs).length := by
  induction cs generalizing index with
  | nil => rfl
  | cons c rest ih =>
    unfold pass reported
    rcases act index c with ⟨c', f | moved⟩
    · rfl
    · dsimp only
      rw [ih, List.length_append]
      cases moved with
      | none => simp
      | some w => simp [Nat.add_comm]

/-- What the charts report to the group while all of them are drawn. -/
def notices [View V] (g : Group V) : List (Nat × Window) :=
  (g.sweepAll (logged notify) (fun _ c => View.redraw c) (EchoOnly.sink, [])).2.1.2

theorem notices_eq_reported [View V] (g : Group V) :
    g.notices = reported (fun _ c => View.redraw c) 0 g.charts := by
  unfold notices
  rw [sweepAll_logged notify_echoes]
  rfl

end Group

/-! ## One chart -/

namespace Chart

variable {c d : Chart}

/-- The second chart shows another window than the first one, or its first window. -/
def Shifted (before after : Chart) : Prop := ∃ w ∈ after.visible?, before.visible? ≠ some w

instance (before after : Chart) : Decidable (before.Shifted after) :=
  inferInstanceAs (Decidable (∃ w ∈ after.visible?, _))

/-- The chart was drawn in between. -/
def Drawn (before after : Chart) : Prop := before.redraws < after.redraws

instance (before after : Chart) : Decidable (before.Drawn after) :=
  inferInstanceAs (Decidable (_ < _))

/-- The window that a chart has to tell of, if it was drawn with another one than before. -/
def notice? (before after : Chart) : Option Window :=
  if before.Shifted after ∧ before.Drawn after then after.visible? else none

theorem visible?_ordered (h : c.Sound) : ∀ v ∈ c.visible?, v.Ordered := by
  intro v hv
  obtain ⟨a, ha, rfl⟩ := Option.map_eq_some_iff.1 hv
  exact (h.axis a ha).visible

/-- A chart that shows the same window has not moved. -/
theorem not_shifted (heq : d.visible? = c.visible?) : ¬ c.Shifted d := by
  rintro ⟨w, hw, hne⟩
  exact hne (heq ▸ hw)

theorem not_drawn (heq : d.redraws = c.redraws) : ¬ c.Drawn d := by
  unfold Drawn
  omega

/-- Following the data reports the window that is visible then if it moved, and none if not. -/
theorem followData_told (h : c.Sound) {moved : Option Window}
    (hok : c.followData = (d, .ok moved)) :
    c.Shifted d ∧ moved = d.visible? ∨ ¬ c.Shifted d ∧ moved = none := by
  unfold followData at hok
  cases haxis : c.axis with
  | none =>
    have hbefore : c.visible? = none := congrArg (Option.map Axis.visible) haxis
    rw [haxis] at hok
    dsimp only at hok
    cases hdata : axisOfData? c.settings c.series with
    | error f =>
      rw [hdata] at hok
      cases hok
    | ok fitted =>
      rw [hdata] at hok
      cases hok
      cases fitted with
      | none => exact Or.inr ⟨by rintro ⟨w, ⟨⟩, -⟩, rfl⟩
      | some a =>
        refine Or.inl ⟨⟨a.visible, rfl, ?_⟩, rfl⟩
        rw [hbefore]
        exact nofun
  | some a =>
    have hbefore : c.visible? = some a.visible := congrArg (Option.map Axis.visible) haxis
    rw [haxis] at hok
    dsimp only at hok
    cases hgrown : growAxis? a false c.series with
    | error f =>
      rw [hgrown] at hok
      cases hok
    | ok result =>
      obtain ⟨grown, grew⟩ := result
      have hkept : grown.visible = a.visible := (Axis.growAxis?_full hgrown).1
      have hstays : ¬ c.Shifted { c with axis := some grown } := by
        refine not_shifted ?_
        rw [hbefore, ← hkept]
        rfl
      rw [hgrown] at hok
      dsimp only at hok
      by_cases hshow : (grew : Prop) ∧ a.ShowsAll
      · unfold Axis.showAll Axis.moveTo at hok
        rw [if_pos hshow] at hok
        by_cases hsame : grown.visible.Same grown.full
        · rw [if_pos hsame] at hok
          cases hok
          exact Or.inr ⟨hstays, rfl⟩
        · rw [if_neg hsame] at hok
          cases hok
          refine Or.inl ⟨⟨grown.full, rfl, ?_⟩, rfl⟩
          rw [hbefore]
          intro heq
          rw [hkept, Option.some.inj heq] at hsame
          exact hsame (.refl (Option.some.inj heq ▸ visible?_ordered h a.visible hbefore))
      · rw [if_neg hshow] at hok
        cases hok
        exact Or.inr ⟨hstays, rfl⟩

theorem eq_notice?_of_told {e : Chart} {moved : Option Window}
    (htold : c.Shifted d ∧ moved = d.visible? ∨ ¬ c.Shifted d ∧ moved = none)
    (hvisible : e.visible? = d.visible?) (hdrawn : c.Drawn e) : moved = c.notice? e := by
  have hiff : c.Shifted e ↔ c.Shifted d := by
    unfold Shifted
    rw [hvisible]
  unfold notice?
  rcases htold with ⟨hshift, rfl⟩ | ⟨hnot, rfl⟩
  · rw [if_pos ⟨hiff.2 hshift, hdrawn⟩, hvisible]
  · rw [if_neg fun hboth => hnot (hiff.1 hboth.1)]

/-- A chart whose drawing is refused may have moved, but is not drawn. One whose drawing succeeds
    tells whether it has moved, and is drawn if it has. -/
theorem redraw_told (h : c.Sound) :
    (∃ f, c.redraw.2 = .error f ∧ ¬ c.Drawn c.redraw.1) ∨
    (c.redraw.2 = .ok (c.notice? c.redraw.1) ∧ (c.Shifted c.redraw.1 → c.Drawn c.redraw.1)) := by
  obtain ⟨axis, hleaves⟩ := c.followData_leaves
  have hredraws : c.followData.1.redraws = c.redraws := by rw [hleaves]
  unfold redraw
  rcases hfollow : c.followData with ⟨d, f | moved⟩
  · rw [hfollow] at hredraws
    exact Or.inl ⟨f, rfl, not_drawn hredraws⟩
  · rw [hfollow] at hredraws
    have htold := followData_told h hfollow
    dsimp only at hredraws ⊢
    cases haxis : d.axis with
    | none =>
      have hnot : ¬ c.Shifted d := by
        rintro ⟨w, hw, -⟩
        rw [show d.visible? = none from congrArg (Option.map Axis.visible) haxis] at hw
        cases hw
      refine Or.inr ⟨?_, fun hshift => absurd hshift hnot⟩
      rw [notice?, if_neg fun hboth => hnot hboth.1]
    | some a =>
      dsimp only
      rcases d.canvas.draw (d.scene a.visible) with ⟨canvas, f | ⟨⟩⟩
      · exact Or.inl ⟨f, rfl, not_drawn hredraws⟩
      · have hvisible :
            ({ d with axis := some a, canvas, redraws := d.redraws + 1 } : Chart).visible? =
              d.visible? := (congrArg (Option.map Axis.visible) haxis).symm
        have hdrawn : c.Drawn { d with axis := some a, canvas, redraws := d.redraws + 1 } :=
          Nat.lt_succ_of_le (Nat.le_of_eq hredraws.symm)
        have hnotice := eq_notice?_of_told htold hvisible hdrawn
        exact Or.inr ⟨congrArg Except.ok hnotice, fun _ => hdrawn⟩

/-- A move of which nobody was told, because the chart was not drawn. -/
def Untold (before after : Chart) : Prop := before.Shifted after ∧ ¬ before.Drawn after

instance (before after : Chart) : Decidable (before.Untold after) :=
  inferInstanceAs (Decidable (_ ∧ _))

theorem notice?_self (c : Chart) : c.notice? c = none := by
  have hnot : ¬ c.Drawn c := not_drawn rfl
  exact if_neg fun hboth => hnot hboth.2

theorem notice?_isSome_iff : (c.notice? d).isSome ↔ c.Shifted d ∧ c.Drawn d := by
  unfold notice?
  split
  · rename_i hboth
    obtain ⟨w, hw, -⟩ := hboth.1
    rw [show d.visible? = some w from hw]
    exact ⟨fun _ => hboth, fun _ => rfl⟩
  · rename_i hnot
    exact ⟨nofun, fun hboth => absurd hboth hnot⟩

end Chart

/-! ## One drawing of all charts -/

namespace Group

/-- The windows that charts have to tell of, each with the index of its chart. -/
def noticesOf (pairs : List (Chart × Chart)) (index : Nat) : List (Nat × Window) :=
  (pairs.zipIdx index).filterMap fun (p, i) => (p.1.notice? p.2).map fun w => (i, w)

theorem noticesOf_cons (c d : Chart) (pairs : List (Chart × Chart)) (index : Nat) :
    noticesOf ((c, d) :: pairs) index =
      ((c.notice? d).map fun w => (index, w)).toList ++ noticesOf pairs (index + 1) := by
  unfold noticesOf
  rw [List.zipIdx_cons, List.filterMap_cons]
  dsimp only
  cases c.notice? d with
  | none => rfl
  | some w => rfl

/-- Charts that did not get to draw have nothing to tell. -/
theorem noticesOf_same (cs : List Chart) (index : Nat) : noticesOf (cs.zip cs) index = [] := by
  induction cs generalizing index with
  | nil => rfl
  | cons c rest ih => rw [List.zip_cons_cons, noticesOf_cons, Chart.notice?_self, ih]; rfl

theorem noticesOf_length (pairs : List (Chart × Chart)) (index : Nat) :
    (noticesOf pairs index).length = pairs.countP fun p => p.1.Shifted p.2 ∧ p.1.Drawn p.2 := by
  induction pairs generalizing index with
  | nil => rfl
  | cons p rest ih =>
    have htold := Chart.notice?_isSome_iff (c := p.1) (d := p.2)
    rw [noticesOf_cons, List.length_append, ih, List.countP_cons, Nat.add_comm]
    cases hnotice : p.1.notice? p.2 with
    | none =>
      rw [hnotice] at htold
      have hnot : ¬ (p.1.Shifted p.2 ∧ p.1.Drawn p.2) := fun hboth => nomatch htold.2 hboth
      rw [decide_eq_false hnot]
      rfl
    | some w =>
      rw [hnotice] at htold
      rw [decide_eq_true (htold.1 rfl)]
      rfl

/-- In a pass that draws charts, those that have something to tell report it. -/
theorem reported_eq {cs : List Chart} (hsound : ∀ c ∈ cs, c.Sound) (index : Nat) :
    reported (fun _ c => View.redraw c) index cs =
      noticesOf (cs.zip (pass (fun _ c => View.redraw c) index cs).charts) index := by
  induction cs generalizing index with
  | nil => rfl
  | cons c rest ih =>
    obtain ⟨hc, hrest⟩ := List.forall_mem_cons.1 hsound
    unfold reported pass
    rw [View.redraw_chart]
    rcases Chart.redraw_told hc with ⟨f, hanswer, hnot⟩ | ⟨hanswer, -⟩
    · rcases hresult : c.redraw with ⟨d, answer⟩
      rw [hresult] at hanswer hnot
      obtain rfl : answer = .error f := hanswer
      have hnone : c.notice? d = none := if_neg fun hboth => hnot hboth.2
      dsimp only
      rw [List.zip_cons_cons, noticesOf_cons, hnone, noticesOf_same]
      rfl
    · rcases hresult : c.redraw with ⟨d, answer⟩
      rw [hresult] at hanswer
      obtain rfl : answer = .ok (c.notice? d) := hanswer
      dsimp only
      rw [List.zip_cons_cons, noticesOf_cons, ih hrest]

/-- If all charts are drawn, no move goes untold. -/
theorem pass_told {cs : List Chart} (hsound : ∀ c ∈ cs, c.Sound) (index : Nat)
    (hok : (pass (fun _ c => View.redraw c) index cs).fault = none) :
    ∀ p ∈ cs.zip (pass (fun _ c => View.redraw c) index cs).charts, ¬ p.1.Untold p.2 := by
  induction cs generalizing index with
  | nil => exact fun p hp => absurd hp List.not_mem_nil
  | cons c rest ih =>
    obtain ⟨hc, hrest⟩ := List.forall_mem_cons.1 hsound
    unfold pass at hok ⊢
    rw [View.redraw_chart] at hok ⊢
    rcases Chart.redraw_told hc with ⟨f, hanswer, -⟩ | ⟨hanswer, hdrawn⟩
    · rcases hresult : c.redraw with ⟨d, answer⟩
      rw [hresult] at hanswer hok
      obtain rfl : answer = .error f := hanswer
      cases hok
    · rcases hresult : c.redraw with ⟨d, answer⟩
      rw [hresult] at hanswer hok hdrawn
      obtain rfl : answer = .ok (c.notice? d) := hanswer
      exact List.forall_mem_cons.2 ⟨fun huntold => huntold.2 (hdrawn huntold.1),
        ih hrest (index + 1) hok⟩

section Drawing

variable {g : Group}

theorem redraw_echoes (g : Group) :
    g.redraw.1.stats.echoes = g.stats.echoes + g.notices.length := by
  rw [notices_eq_reported, ← pass_moves, redraw_fst]

theorem redraw_fault (hok : g.redraw.2 = .ok ()) :
    (pass (fun _ c => View.redraw c) 0 g.charts).fault = none := by
  rw [redraw_eq] at hok
  dsimp only at hok
  split at hok
  · assumption
  · cases hok

/-- What the group hears of a drawing: of every chart that was drawn with another window than
    before, once and with that window, in order; and of no other. -/
theorem notices_eq (hsound : ∀ c ∈ g.charts, c.Sound) :
    g.notices = noticesOf (g.charts.zip g.redraw.1.charts) 0 := by
  rw [notices_eq_reported, reported_eq hsound, redraw_charts]

/-- Echoes count the moves that were told, not those that went with a refused drawing. -/
theorem redraw_echoes_add (hsound : ∀ c ∈ g.charts, c.Sound) :
    g.redraw.1.stats.echoes + (g.charts.zip g.redraw.1.charts).countP (fun p => p.1.Untold p.2) =
      g.stats.echoes + (g.charts.zip g.redraw.1.charts).countP fun p => p.1.Shifted p.2 := by
  have hsplit : ∀ pairs : List (Chart × Chart),
      pairs.countP (fun p => p.1.Shifted p.2 ∧ p.1.Drawn p.2) +
        pairs.countP (fun p => p.1.Untold p.2) = pairs.countP fun p => p.1.Shifted p.2 := by
    intro pairs
    induction pairs with
    | nil => rfl
    | cons p rest ih =>
      simp only [List.countP_cons, decide_eq_true_eq, ← ih]
      by_cases hshift : p.1.Shifted p.2 <;> by_cases hdrawn : p.1.Drawn p.2 <;>
        simp [Chart.Untold, hshift, hdrawn] <;> omega
  rw [redraw_echoes, notices_eq hsound, noticesOf_length, Nat.add_assoc, hsplit]

end Drawing

/-! ## Runs -/

variable {H : Type} [Recorder H]

/-- Every chart before and after a call that draws all of them. -/
def drawingOf (g : Group) : Action → List (Chart × Chart)
  | .redraw => g.charts.zip g.redraw.1.charts
  | .anchor | .notify .. | .userSet .. | .select .. | .navigated _ | .apply .. | .append ..
  | .moveTo .. => []

/-- Every chart before and after every drawing of all charts in a run. -/
def drawings (g : Group) (h : H) : List Action → List (Chart × Chart)
  | [] => []
  | a :: rest => g.drawingOf a ++ drawings (g.act h a).1 (g.act h a).2.1 rest

theorem onChart_stats {V α : Type} (g : Group V) (index : Nat) (act : V → V × Except Fault α) :
    (g.onChart index act).1.stats = g.stats := by
  rcases Nat.lt_or_ge index g.charts.length with hi | hi
  · rw [onChart_of_getElem? (List.getElem?_eq_getElem hi)]
  · rw [onChart_of_le hi]

theorem act_sound {g : Group} (hsound : ∀ c ∈ g.charts, c.Sound) (h : H) {a : Action}
    (ha : IsLive a) : ∀ c ∈ (g.act h a).1.charts, c.Sound := by
  cases a with
  | redraw => exact redraw_forall (fun c hc => Chart.redraw_sound hc) hsound
  | apply slot samples =>
    refine onChart_forall (fun c hc => ?_) hsound slot.chart
    exact appendAll_keeps (P := Chart.Sound) (fun index x _ hc => Chart.append_sound hc index x)
      slot.series samples hc
  | append chart series x =>
    exact onChart_forall (fun c hc => Chart.append_sound hc series x) hsound chart
  | anchor | notify | userSet | select | navigated | moveTo => cases ha

theorem act_echoes {g : Group} (hsound : ∀ c ∈ g.charts, c.Sound) (h : H) {a : Action}
    (ha : IsLive a) :
    (g.act h a).1.stats.echoes + (g.drawingOf a).countP (fun p => p.1.Untold p.2) =
      g.stats.echoes + (g.drawingOf a).countP fun p => p.1.Shifted p.2 := by
  cases a with
  | redraw => exact redraw_echoes_add hsound
  | apply slot samples => exact congrArg Stats.echoes (g.onChart_stats _ _)
  | append chart series x => exact congrArg Stats.echoes (g.onChart_stats _ _)
  | anchor | notify | userSet | select | navigated | moveTo => cases ha

theorem run_sound {g : Group} (hsound : ∀ c ∈ g.charts, c.Sound) (h : H) {calls : List Action}
    (hlive : ∀ a ∈ calls, IsLive a) : ∀ c ∈ (g.run h calls).group.charts, c.Sound := by
  induction calls generalizing g h with
  | nil => exact hsound
  | cons a rest ih =>
    obtain ⟨ha, hrest⟩ := List.forall_mem_cons.1 hlive
    exact ih (act_sound hsound h ha) (g.act h a).2.1 hrest

theorem run_echoes {g : Group} (hsound : ∀ c ∈ g.charts, c.Sound) (h : H) {calls : List Action}
    (hlive : ∀ a ∈ calls, IsLive a) :
    (g.run h calls).group.stats.echoes + (g.drawings h calls).countP (fun p => p.1.Untold p.2) =
      g.stats.echoes + (g.drawings h calls).countP fun p => p.1.Shifted p.2 := by
  induction calls generalizing g h with
  | nil => rfl
  | cons a rest ih =>
    obtain ⟨ha, hrest⟩ := List.forall_mem_cons.1 hlive
    have hone := act_echoes hsound h ha
    have hmore := ih (act_sound hsound h ha) (g.act h a).2.1 hrest
    unfold drawings
    rw [List.countP_append, List.countP_append, run_cons]
    dsimp only
    omega

/-- Whether a group hears of the windows that drawings move. Samples come in and all charts are
    drawn, in any order and whatever their canvases refuse. Of the next drawing the group hears from
    every chart that was drawn with another window than before, once and with that window, and from
    no other chart; if the drawing succeeds, that is from every chart that moved. All in all, the
    moves are those that the group has heard of as echoes, and those of charts that were not drawn
    because their canvas refused it. -/
theorem moves_are_told_or_lost {g : Group} (hsound : ∀ c ∈ g.charts, c.Sound) (h : H)
    {calls : List Action} (hlive : ∀ a ∈ calls, IsLive a) :
    let reached := (g.run h calls).group
    reached.notices = noticesOf (reached.charts.zip reached.redraw.1.charts) 0 ∧
    reached.redraw.1.stats.echoes = reached.stats.echoes + reached.notices.length ∧
    (reached.redraw.2 = .ok () →
      ∀ p ∈ reached.charts.zip reached.redraw.1.charts, p.1.Shifted p.2 → p.1.Drawn p.2) ∧
    reached.stats.echoes + (g.drawings h calls).countP (fun p => p.1.Untold p.2) =
      g.stats.echoes + (g.drawings h calls).countP fun p => p.1.Shifted p.2 := by
  intro reached
  have hreached : ∀ c ∈ reached.charts, c.Sound := run_sound hsound h hlive
  refine ⟨notices_eq hreached, reached.redraw_echoes, ?_, run_echoes hsound h hlive⟩
  intro hok p hp hshift
  rw [redraw_charts] at hp
  by_contra hdrawn
  exact pass_told hreached 0 (redraw_fault hok) p hp ⟨hshift, hdrawn⟩

/-- A group of one chart with samples at 0 and at 100, whose canvas refuses the first drawing. -/
def unluckyGroup : Group :=
  { briefGroup 100 with
    charts := (briefGroup 100).charts.map fun c => { c with canvas := .blank [1] } }

/-- A sample, a drawing that is refused and another one, and then a sample that is drawn. -/
def unluckyCalls : List Action :=
  [.append 0 0 ⟨150, 1⟩, .redraw, .redraw, .append 0 0 ⟨200, 1⟩, .redraw]

theorem moves_are_told_or_lost_once :
    (unluckyGroup.run Trail.start unluckyCalls).group.stats.echoes + 1 = 2 := by
  obtain ⟨-, -, -, hcount⟩ := moves_are_told_or_lost (g := unluckyGroup) (by decide +kernel)
    Trail.start (show ∀ a ∈ unluckyCalls, IsLive a by decide)
  have huntold : (unluckyGroup.drawings Trail.start unluckyCalls).countP
      (fun p => p.1.Untold p.2) = 1 := by decide +kernel
  have hshifted : (unluckyGroup.drawings Trail.start unluckyCalls).countP
      (fun p => p.1.Shifted p.2) = 2 := by decide +kernel
  rw [huntold, hshifted] at hcount
  exact hcount

/-- A drawing that succeeds does not make up for one that was refused: the window has moved, and the
    group never hears of it. -/
theorem redraw_loses_notice :
    ¬ ∀ (g : Group) (h : Trail) (calls : List Action), (∀ c ∈ g.charts, c.Sound) →
      (∀ a ∈ calls, IsLive a) → (g.run h calls).results.getLast? = some (.ok .drawn) →
      (g.run h calls).group.stats.echoes =
        g.stats.echoes + (g.drawings h calls).countP fun p => p.1.Shifted p.2 := by
  intro hall
  have hequal := hall unluckyGroup Trail.start [.append 0 0 ⟨150, 1⟩, .redraw, .redraw]
    (by decide +kernel) (by decide) (by decide +kernel)
  exact absurd hequal (by decide +kernel)

end Group

end LinkedCharts
