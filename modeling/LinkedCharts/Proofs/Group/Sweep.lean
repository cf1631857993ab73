import LinkedCharts.Group.Sync
import Mathlib.Data.List.Basic
import Mathlib.Data.List.Forall2

/-!
# A sweep is one pass over the charts

While echoes are suppressed, a report does no more than count an echo. So a sweep with echoes
suppressed, whose charts report every move to the group, does the same as a plain pass over the list
of charts that counts the moves and stops at the first failure. What a report does outside of a step
follows, without a depth.

Results:
* `Group.pass`, `Group.reported`: the pass over the list of charts, and what the charts report.
* `Group.pass_append`, `Group.pass_cases`: a pass is taken apart at the chart that it stops at.
* `Group.sweepAll_noting`: a sweep with echoes suppressed is a pass.
* `Group.sweepAll_eq`: the history is not written to.
* `Group.notify_eq`: a report records a window and spreads it, and the charts report in turn.
* `Group.spread_eq`, `Group.navigated_of_own`, `Group.redraw_eq`: the steps of a group as passes.
* `Group.userSet_of_accepted`, `Group.userSet_of_refused`: what a user's window comes down to.
-/

namespace LinkedCharts

/-- Some echoes heard. -/
def Stats.addEchoes (s : Stats) (n : Nat) : Stats := { s with echoes := s.echoes + n }

@[simp] theorem Stats.addEchoes_zero (s : Stats) : s.addEchoes 0 = s := rfl

theorem Stats.addEchoes_countEcho (s : Stats) (n : Nat) :
    s.countEcho.addEchoes n = s.addEchoes (n + 1) := by
  simp only [Stats.addEchoes, Stats.countEcho]
  congr 1
  omega

/-- An element in the place of one with the same image leaves the images of a list as they are. -/
theorem map_set_of_eq {α β : Type} {f : α → β} {l : List α} {i : Nat} {x y : α}
    (hx : l[i]? = some x) (hy : f y = f x) : (l.set i y).map f = l.map f := by
  obtain ⟨hi, rfl⟩ := List.getElem?_eq_some_iff.1 hx
  have hlength : i < (l.map f).length := by rwa [List.length_map]
  rw [List.map_set, hy, ← List.getElem_map f (h := hlength)]
  exact List.set_getElem_self hlength

theorem forall₂_set {α β : Type} {R : α → β → Prop} {xs : List α} {ys : List β} {i : Nat} {y z : β}
    (h : List.Forall₂ R xs ys) (hy : ys[i]? = some y) (hz : ∀ x, R x y → R x z) :
    List.Forall₂ R xs (ys.set i z) := by
  induction h generalizing i with
  | nil => exact .nil
  | cons hab hrest ih =>
    cases i with
    | zero =>
      cases hy
      exact .cons (hz _ hab) hrest
    | succ i => exact .cons hab (ih hy)

namespace Group

variable {V H : Type}

/-! ## Passes -/

/-- What a pass over charts leaves. -/
structure Swept (V : Type) where
  charts : List V
  /-- how many charts moved -/
  moves : Nat
  /-- what the pass stopped at, if it did not get to the end -/
  fault : Option Fault

/-- The answer of a pass: the number of moves, or the failure. -/
def Swept.answer (s : Swept V) : Except Fault Nat :=
  match s.fault with
  | none => .ok s.moves
  | some f => .error f

/-- Lets charts act in order until one fails; `index` is that of the first one. -/
def pass (act : Nat → V → V × Except Fault (Option Window)) : (index : Nat) → List V → Swept V
  | _, [] => ⟨[], 0, none⟩
  | index, c :: rest =>
    match act index c with
    | (c, .error f) => ⟨c :: rest, 0, some f⟩
    | (c, .ok moved) =>
      let s := pass act (index + 1) rest
      ⟨c :: s.charts, s.moves + (if moved.isSome then 1 else 0), s.fault⟩

/-- What every chart has after it acted, every chart has after a pass, if those that did not get to
    act have it too. -/
theorem pass_forall {act : Nat → V → V × Except Fault (Option Window)} {P Q : V → Prop}
    (hstay : ∀ c, P c → Q c) (hact : ∀ i c, P c → Q (act i c).1) (index : Nat) {cs : List V}
    (h : ∀ c ∈ cs, P c) : ∀ c ∈ (pass act index cs).charts, Q c := by
  induction cs generalizing index with
  | nil => exact fun c hc => absurd hc List.not_mem_nil
  | cons c rest ih =>
    have hc := hact index c (h c List.mem_cons_self)
    have hrest : ∀ d ∈ rest, P d := fun d hd => h d (List.mem_cons_of_mem c hd)
    unfold pass
    rcases hresult : act index c with ⟨c', f | moved⟩
    · rw [hresult] at hc
      exact List.forall_mem_cons.2 ⟨hc, fun d hd => hstay d (hrest d hd)⟩
    · rw [hresult] at hc
      exact List.forall_mem_cons.2 ⟨hc, ih (index + 1) hrest⟩

/-- What no chart changes when it acts is the same after a pass. -/
theorem pass_map {β : Type} {act : Nat → V → V × Except Fault (Option Window)} {f : V → β}
    {cs : List V} (h : ∀ i, ∀ c ∈ cs, f (act i c).1 = f c) (index : Nat) :
    (pass act index cs).charts.map f = cs.map f := by
  induction cs generalizing index with
  | nil => rfl
  | cons c rest ih =>
    have hc := h index c List.mem_cons_self
    have hrest : ∀ i, ∀ d ∈ rest, f (act i d).1 = f d :=
      fun i d hd => h i d (List.mem_cons_of_mem c hd)
    unfold pass
    rcases hact : act index c with ⟨c', f | moved⟩
    · rw [hact] at hc
      rw [List.map_cons, List.map_cons, hc]
    · rw [hact] at hc
      rw [List.map_cons, List.map_cons, hc, ih hrest]

section Stops

variable {act : Nat → V → V × Except Fault (Option Window)}

/-- The chart moved and said so. -/
def SaysMoved : Except Fault (Option Window) → Bool
  | .ok (some _) => true
  | .ok none | .error _ => false

theorem pass_length (act : Nat → V → V × Except Fault (Option Window)) (index : Nat) (cs : List V) :
    (pass act index cs).charts.length = cs.length := by
  induction cs generalizing index with
  | nil => rfl
  | cons c rest ih =>
    unfold pass
    rcases act index c with ⟨c', f | moved⟩
    · rfl
    · exact congrArg (· + 1) (ih (index + 1))

/-- A pass over charts that do not fail goes on behind them. -/
theorem pass_append {front : List V} (index : Nat)
    (hok : ∀ p ∈ front.zipIdx index, (act p.2 p.1).2.isOk) (back : List V) :
    pass act index (front ++ back) =
      (let rest := pass act (index + front.length) back
       ⟨(front.zipIdx index).map (fun p => (act p.2 p.1).1) ++ rest.charts,
        (front.zipIdx index).countP (fun p => SaysMoved (act p.2 p.1).2) + rest.moves,
        rest.fault⟩) := by
  induction front generalizing index with
  | nil => simp
  | cons c front ih =>
    rw [List.zipIdx_cons] at hok ⊢
    obtain ⟨hc, hfront⟩ := List.forall_mem_cons.1 hok
    have hrest := ih (index + 1) hfront
    rw [List.cons_append, pass, hrest]
    rcases hact : act index c with ⟨c', f | moved⟩
    · rw [hact] at hc
      cases hc
    · have hlength : index + 1 + front.length = index + (c :: front).length := by
        rw [List.length_cons]
        omega
      have hmoved : SaysMoved (.ok moved) = moved.isSome := by
        cases moved with
        | none => rfl
        | some w => rfl
      dsimp only
      rw [hlength, List.map_cons, List.countP_cons, hact, hmoved, Nat.add_right_comm]
      rfl

/-- A pass over charts that do not fail. -/
theorem pass_of_ok {cs : List V} (index : Nat)
    (hok : ∀ p ∈ cs.zipIdx index, (act p.2 p.1).2.isOk) :
    pass act index cs =
      ⟨(cs.zipIdx index).map fun p => (act p.2 p.1).1,
        (cs.zipIdx index).countP fun p => SaysMoved (act p.2 p.1).2, none⟩ := by
  have happend := pass_append index hok []
  rw [List.append_nil] at happend
  rw [happend]
  simp [pass]

/-- A pass stops at the first chart that fails. -/
theorem pass_of_fault (act : Nat → V → V × Except Fault (Option Window)) {front : List V}
    (index : Nat)
    (hok : ∀ p ∈ front.zipIdx index, (act p.2 p.1).2.isOk) {c c' : V} {f : Fault}
    (hc : act (index + front.length) c = (c', .error f)) (back : List V) :
    pass act index (front ++ c :: back) =
      ⟨(front.zipIdx index).map (fun p => (act p.2 p.1).1) ++ c' :: back,
        (front.zipIdx index).countP fun p => SaysMoved (act p.2 p.1).2, some f⟩ := by
  rw [pass_append index hok, pass, hc]
  rfl

/-- Where a pass stops, the charts up to the one that fails have acted, and the others have not. -/
theorem pass_of_fault_getElem? (act : Nat → V → V × Except Fault (Option Window)) {front : List V}
    (index : Nat)
    (hok : ∀ p ∈ front.zipIdx index, (act p.2 p.1).2.isOk) {c c' : V} {f : Fault}
    (hc : act (index + front.length) c = (c', .error f)) (back : List V) (i : Nat) :
    (pass act index (front ++ c :: back)).charts[i]? =
      if i ≤ front.length then (front ++ c :: back)[i]?.map fun d => (act (index + i) d).1
      else (front ++ c :: back)[i]? := by
  have hfront : ((front.zipIdx index).map fun p => (act p.2 p.1).1).length = front.length := by
    rw [List.length_map, List.length_zipIdx]
  rw [pass_of_fault act index hok hc]
  dsimp only
  rcases Nat.lt_trichotomy i front.length with hlt | rfl | hgt
  · rw [if_pos (Nat.le_of_lt hlt), List.getElem?_append_left (by omega),
      List.getElem?_append_left hlt, List.getElem?_map, List.getElem?_zipIdx, Option.map_map]
    rfl
  · rw [if_pos (Nat.le_refl _), List.getElem?_append_right (by omega),
      List.getElem?_append_right (Nat.le_refl _), hfront, Nat.sub_self, List.getElem?_cons_zero,
      List.getElem?_cons_zero, Option.map_some, hc]
  · obtain ⟨j, rfl⟩ := Nat.exists_eq_add_of_lt hgt
    rw [if_neg (by omega), List.getElem?_append_right (by omega),
      List.getElem?_append_right (by omega), hfront,
      show front.length + j + 1 - front.length = j + 1 by omega, List.getElem?_cons_succ,
      List.getElem?_cons_succ]

/-- No chart fails in a pass, or one does and none before it. -/
theorem pass_cases (act : Nat → V → V × Except Fault (Option Window)) (index : Nat) (cs : List V) :
    (∀ p ∈ cs.zipIdx index, (act p.2 p.1).2.isOk) ∨
    ∃ front c back f, cs = front ++ c :: back ∧
      (∀ p ∈ front.zipIdx index, (act p.2 p.1).2.isOk) ∧
      (act (index + front.length) c).2 = .error f := by
  induction cs generalizing index with
  | nil =>
    left
    rintro p ⟨⟩
  | cons c rest ih =>
    cases hc : (act index c).2 with
    | error f =>
      refine Or.inr ⟨[], c, rest, f, rfl, ?_, hc⟩
      rintro p ⟨⟩
    | ok moved =>
      have hfirst : (act index c).2.isOk := by
        rw [hc]
        rfl
      rcases ih (index + 1) with hall | ⟨front, d, back, f, rfl, hfront, hd⟩
      · left
        rw [List.zipIdx_cons]
        exact List.forall_mem_cons.2 ⟨hfirst, hall⟩
      · refine Or.inr ⟨c :: front, d, back, f, rfl, ?_, ?_⟩
        · rw [List.zipIdx_cons]
          exact List.forall_mem_cons.2 ⟨hfirst, hfront⟩
        · rw [List.length_cons, show index + (front.length + 1) = index + 1 + front.length by omega]
          exact hd

end Stops

/-- The windows that charts report while they act in order, each with the index of its chart. -/
def reported (act : Nat → V → V × Except Fault (Option Window)) :
    (index : Nat) → List V → List (Nat × Window)
  | _, [] => []
  | index, c :: rest =>
    match (act index c).2 with
    | .error _ => []
    | .ok moved => (moved.map fun w => (index, w)).toList ++ reported act (index + 1) rest

/-- While echoes are suppressed, a report counts an echo, and notes its window in the history. -/
def EchoesNoting (note : H → Nat → Window → H) (report : Report V H) : Prop :=
  ∀ (g : Group V) (h : H) (index : Nat) (w : Window), g.suppressed = true →
    index < g.charts.length →
      report g h index w = ({ g with stats := g.stats.countEcho }, note h index w, .ok .suppressed)

/-- While echoes are suppressed, a report counts an echo and does nothing else. -/
def Echoes (report : Report V H) : Prop :=
  ∀ (g : Group V) (h : H) (index : Nat) (w : Window), g.suppressed = true →
    index < g.charts.length →
      report g h index w = ({ g with stats := g.stats.countEcho }, h, .ok .suppressed)

theorem onChart_of_getElem? {α : Type} {g : Group V} {index : Nat} {c : V}
    (hc : g.charts[index]? = some c) (act : V → V × Except Fault α) :
    g.onChart index act = ({ g with charts := g.charts.set index (act c).1 }, (act c).2) := by
  simp only [onChart, hc]

theorem onChart_of_le {α : Type} {g : Group V} {index : Nat} (h : g.charts.length ≤ index)
    (act : V → V × Except Fault α) : g.onChart index act = (g, .error (g.missing index)) := by
  simp only [onChart, List.getElem?_eq_none h]

theorem onChart_fst {α : Type} (g : Group V) (index : Nat) (act : V → V × Except Fault α) :
    (g.onChart index act).1 = { g with charts := g.charts.modify index fun c => (act c).1 } := by
  unfold onChart
  rw [List.modify_eq_set_getElem?]
  cases g.charts[index]? with
  | none => rfl
  | some c => rfl

theorem onChart_forall {α : Type} {g : Group V} {act : V → V × Except Fault α} {P : V → Prop}
    (hact : ∀ c, P c → P (act c).1) (h : ∀ c ∈ g.charts, P c) (index : Nat) :
    ∀ c ∈ (g.onChart index act).1.charts, P c := by
  rcases Nat.lt_or_ge index g.charts.length with hi | hi
  · rw [onChart_of_getElem? (List.getElem?_eq_getElem hi)]
    intro c hc
    rcases List.mem_or_eq_of_mem_set hc with hc | rfl
    · exact h c hc
    · exact hact _ (h _ (List.getElem_mem hi))
  · rw [onChart_of_le hi]
    exact h

theorem sweep_eq_pass {note : H → Nat → Window → H} {report : Report V H}
    (he : EchoesNoting note report) (act : Nat → V → V × Except Fault (Option Window)) (h : H)
    (cs pre : List V) (g : Group V) (hs : g.suppressed = true) (hg : g.charts = pre ++ cs) :
    sweep report act (List.range' pre.length cs.length) g h =
      ({ g with
          charts := pre ++ (pass act pre.length cs).charts
          stats := g.stats.addEchoes (pass act pre.length cs).moves },
        (reported act pre.length cs).foldl (fun h r => note h r.1 r.2) h,
        (pass act pre.length cs).answer) := by
  induction cs generalizing pre g h with
  | nil => simp [sweep, pass, reported, Swept.answer, ← hg]
  | cons c rest ih =>
    have hc : g.charts[pre.length]? = some c := by simp [hg]
    have hset : g.charts.set pre.length (act pre.length c).1
        = pre ++ (act pre.length c).1 :: rest := by simp [hg]
    simp only [List.length_cons, List.range'_succ, sweep, onChart_of_getElem? hc, hset, pass,
      reported]
    match hact : act pre.length c with
    | (c', .error f) => rfl
    | (c', .ok none) =>
      have := ih h (pre ++ [c']) { g with charts := pre ++ c' :: rest } hs (by simp)
      simpa [Swept.answer] using this
    | (c', .ok (some w)) =>
      have hecho := he { g with charts := pre ++ c' :: rest } h pre.length w hs (by simp)
      have := ih (note h pre.length w) (pre ++ [c'])
        { g with charts := pre ++ c' :: rest, stats := g.stats.countEcho } hs (by simp)
      simp only [List.length_append, List.length_singleton] at this
      simp only [hecho, this, Stats.addEchoes_countEcho]
      cases hf : (pass act (pre.length + 1) rest).fault <;> simp [Swept.answer, hf, Except.map]

/-- A sweep of all charts is a pass over them. It counts an echo for every move, leaves the flag as
    it was, and notes the moves that are reported. -/
theorem sweepAll_noting {note : H → Nat → Window → H} {report : Report V H}
    (he : EchoesNoting note report) (act : Nat → V → V × Except Fault (Option Window))
    (g : Group V) (h : H) :
    g.sweepAll report act h =
      ({ g with
          charts := (pass act 0 g.charts).charts
          stats := g.stats.addEchoes (pass act 0 g.charts).moves },
        (reported act 0 g.charts).foldl (fun h r => note h r.1 r.2) h,
        (pass act 0 g.charts).answer) := by
  have := sweep_eq_pass he act h g.charts [] { g with suppressed := true } rfl rfl
  simp only [List.length_nil, ← List.range_eq_range', List.nil_append] at this
  simp only [sweepAll, whileSuppressed, this]

/-- A sweep with reports that only count echoes writes nothing to the history. -/
theorem sweepAll_eq {report : Report V H} (he : Echoes report)
    (act : Nat → V → V × Except Fault (Option Window)) (g : Group V) (h : H) :
    g.sweepAll report act h =
      ({ g with
          charts := (pass act 0 g.charts).charts
          stats := g.stats.addEchoes (pass act 0 g.charts).moves },
        h, (pass act 0 g.charts).answer) := by
  have hnoting : EchoesNoting (fun h _ _ => h) report := he
  rw [sweepAll_noting hnoting, List.foldl_fixed]

/-! ## Reports -/

variable [View V] [Recorder H]

/-- A chart that follows a window moves to it, or is the one that the window comes from. -/
theorem follow_fst (w : Window) (origin : Option Nat) (index : Nat) (c : V) :
    (follow w origin index c).1 = c ∨ (follow w origin index c).1 = (View.moveTo c w).1 := by
  unfold follow
  split
  · exact Or.inl rfl
  · split
    all_goals
      rename_i heq
      exact Or.inr (congrArg Prod.fst heq).symm

theorem notifyWithin_echoes (depth : Nat) :
    Echoes (notifyWithin (depth + 1) : Report V H) := by
  intro g h index w hs hi
  simp only [notifyWithin, hs]
  rw [if_neg (by omega)]
  rfl

theorem notify_echoes : Echoes (notify : Report V H) := notifyWithin_echoes 1

/-- A window that is reported is an echo while a step is under way. Otherwise it is recorded and
    spread; the charts that it moves report in turn. -/
theorem notify_eq (g : Group V) (h : H) (origin : Nat) (w : Window) :
    g.notify h origin w =
      if g.charts.length ≤ origin then (g, h, .error (g.missing origin))
      else if g.suppressed then ({ g with stats := g.stats.countEcho }, h, .ok .suppressed)
      else
        match Recorder.push h ⟨g.id, w⟩ with
        | (h, .error f) => (g, h, .error f)
        | (h, .ok ()) =>
          let (g, h, moved) := spread { g with stats := g.stats.countPush } h w (some origin)
          (g, h, moved.map .broadcast) := by
  have hdepth : ∀ (g : Group V) (h : H) (act : Nat → V → V × Except Fault (Option Window)),
      g.sweepAll (notifyWithin 1) act h = g.sweepAll notify act h := by
    intro g h act
    rw [sweepAll_eq (notifyWithin_echoes 0), sweepAll_eq notify_echoes]
  simp only [spread, ← hdepth]
  rfl

/-- What a report does once its window is recorded. -/
theorem notify_of_push {g : Group V} {h h' : H} {origin : Nat} {w : Window}
    (ho : origin < g.charts.length) (hopen : g.suppressed = false)
    (hp : Recorder.push h ⟨g.id, w⟩ = (h', .ok ())) :
    g.notify h origin w =
      ({ g with
          charts := (pass (follow w (some origin)) 0 g.charts).charts
          stats := g.stats.countPush.addEchoes (pass (follow w (some origin)) 0 g.charts).moves },
        h', (pass (follow w (some origin)) 0 g.charts).answer.map .broadcast) := by
  rw [notify_eq, if_neg (by omega), if_neg (by simp [hopen]), hp]
  simp only [spread, sweepAll_eq notify_echoes]

/-- What a report does if the history refuses its window. -/
theorem notify_of_refused {g : Group V} {h h' : H} {origin : Nat} {w : Window} {f : Fault}
    (ho : origin < g.charts.length) (hopen : g.suppressed = false)
    (hp : Recorder.push h ⟨g.id, w⟩ = (h', .error f)) :
    g.notify h origin w = (g, h', .error f) := by
  rw [notify_eq, if_neg (by omega), if_neg (by simp [hopen]), hp]

/-- There is no chart to report. -/
theorem notify_of_le {g : Group V} {h : H} {origin : Nat} {w : Window}
    (ho : g.charts.length ≤ origin) : g.notify h origin w = (g, h, .error (g.missing origin)) := by
  rw [notify_eq, if_pos ho]

/-! ## Steps -/

theorem spread_eq (g : Group V) (h : H) (w : Window) (origin : Option Nat) :
    g.spread h w origin =
      ({ g with
          charts := (pass (follow w origin) 0 g.charts).charts
          stats := g.stats.addEchoes (pass (follow w origin) 0 g.charts).moves },
        h, (pass (follow w origin) 0 g.charts).answer) :=
  sweepAll_eq notify_echoes _ g h

/-- A state that holds no entry of the group's own does nothing. -/
theorem navigated_of_foreign {g : Group V} {state : Json.Value}
    (h : ∀ e, Entry.ofState? state = some e → e.group ≠ g.id) :
    g.navigated state = (g, .ok false) := by
  unfold navigated
  cases he : Entry.ofState? state with
  | none => rfl
  | some e => exact if_pos (h e he)

/-- The window of an entry of the group's own is shown on all charts. -/
theorem navigated_of_own {g : Group V} {state : Json.Value} {e : Entry}
    (he : Entry.ofState? state = some e) (hid : e.group = g.id) :
    g.navigated state =
      (let s := pass (follow e.window none) 0 g.charts
       let after := { g with charts := s.charts, stats := g.stats.addEchoes s.moves }
       match s.fault with
       | none => ({ after with stats := after.stats.countNavigation }, .ok true)
       | some f => (after, .error f)) := by
  unfold navigated
  simp only [he, if_neg (not_not_intro hid), spread_eq, Swept.answer]
  cases (pass (follow e.window none) 0 g.charts).fault with
  | none => rfl
  | some f => rfl

/-- A state of the history leaves the group as it is, or is the group's own and leaves the charts of
    a pass with its window, which is counted if it got through. -/
theorem navigated_cases (g : Group V) (state : Json.Value) :
    g.navigated state = (g, .ok false) ∨
    ∃ e, Entry.ofState? state = some e ∧ e.group = g.id ∧
      (g.navigated state).1 =
        (let s := pass (follow e.window none) 0 g.charts
         { g with
           charts := s.charts
           stats := { g.stats with
             echoes := g.stats.echoes + s.moves
             navigations := g.stats.navigations + if s.fault.isNone then 1 else 0 } }) := by
  by_cases hown : ∃ e, Entry.ofState? state = some e ∧ e.group = g.id
  · obtain ⟨e, he, hid⟩ := hown
    refine Or.inr ⟨e, he, hid, ?_⟩
    rw [navigated_of_own he hid]
    dsimp only
    cases (pass (follow e.window none) 0 g.charts).fault with
    | none => rfl
    | some f => rfl
  · exact Or.inl (navigated_of_foreign fun e he hid => hown ⟨e, he, hid⟩)

/-- A drawing of all charts is a pass that counts its moves as echoes. -/
theorem redraw_eq (g : Group V) :
    g.redraw =
      (let s := pass (fun _ c => View.redraw c) 0 g.charts
       let after := { g with charts := s.charts, stats := g.stats.addEchoes s.moves }
       match s.fault with
       | none => ({ after with stats := after.stats.countPass }, .ok ())
       | some f => (after, .error f)) := by
  unfold redraw
  simp only [sweepAll_eq notify_echoes, Swept.answer]
  cases (pass (fun _ c => View.redraw c) 0 g.charts).fault with
  | none => rfl
  | some f => rfl

/-- What a drawing leaves: the charts of the pass, and counters that count it if it got through. -/
theorem redraw_fst (g : Group V) :
    g.redraw.1 =
      (let s := pass (fun _ c => View.redraw c) 0 g.charts
       { g with
         charts := s.charts
         stats := { g.stats with
           echoes := g.stats.echoes + s.moves
           passes := g.stats.passes + if s.fault.isNone then 1 else 0 } }) := by
  rw [redraw_eq]
  dsimp only
  cases (pass (fun _ c => View.redraw c) 0 g.charts).fault with
  | none => rfl
  | some f => rfl

theorem redraw_charts (g : Group V) :
    g.redraw.1.charts = (pass (fun _ c => View.redraw c) 0 g.charts).charts := by
  rw [redraw_fst]

/-- A window that the origin accepts is reported by it. -/
theorem userSet_of_accepted {g : Group V} {h : H} {origin : Nat} {w : Window} {c : V} {moved : Bool}
    (hc : g.charts[origin]? = some c)
    (hm : (View.moveTo c (w.widenedTo g.effectiveMinimum)).2 = .ok moved) :
    g.userSet h origin w =
      notify { g with
        charts := g.charts.set origin (View.moveTo c (w.widenedTo g.effectiveMinimum)).1 }
        h origin (w.widenedTo g.effectiveMinimum) := by
  simp only [userSet, onChart_of_getElem? hc, hm]

/-- A window that the origin refuses goes no further. -/
theorem userSet_of_refused {g : Group V} {h : H} {origin : Nat} {w : Window} {c : V} {f : Fault}
    (hc : g.charts[origin]? = some c)
    (hm : (View.moveTo c (w.widenedTo g.effectiveMinimum)).2 = .error f) :
    g.userSet h origin w =
      ({ g with
        charts := g.charts.set origin (View.moveTo c (w.widenedTo g.effectiveMinimum)).1 },
        h, .error f) := by
  simp only [userSet, onChart_of_getElem? hc, hm]

theorem userSet_of_le {g : Group V} {h : H} {origin : Nat} {w : Window}
    (ho : g.charts.length ≤ origin) : g.userSet h origin w = (g, h, .error (g.missing origin)) := by
  simp only [userSet, onChart_of_le ho]

end Group

end LinkedCharts
