import LinkedCharts.Proofs.Group.Run

/-!
# What becomes of every chart

A group has its charts from the start, and no call adds one, takes one away or puts one in another
place. What moves, samples and drawings leave true between a chart and what it once was is true of
all charts of a group after any run, place by place. `Group.act_forall` says the same of what is
true of a chart alone.

Results:
* `View.Stable`: a relation between views that no step of the later one ends.
* `Group.pass_stable`, `Group.act_stable`, `Group.run_stable`: it holds through passes, calls and
  runs.
-/

namespace LinkedCharts

/-- What the second view is to the first one, it still is after a move, a sample or a drawing. -/
structure View.Stable {V : Type} [View V] (R : V → V → Prop) : Prop where
  moveTo : ∀ {b c : V} (w : Window), R b c → R b (View.moveTo c w).1
  append : ∀ {b c : V} (index : Nat) (x : Sample), R b c → R b (View.append c index x).1
  redraw : ∀ {b c : V}, R b c → R b (View.redraw c).1

/-- The element in a place of one list has a counterpart in the same place of the other. -/
theorem exists_getElem?_of_forall₂ {α β : Type} {R : α → β → Prop} {xs : List α} {ys : List β}
    (h : List.Forall₂ R xs ys) {i : Nat} {x : α} (hx : xs[i]? = some x) :
    ∃ y, ys[i]? = some y ∧ R x y := by
  induction h generalizing i with
  | nil => cases hx
  | @cons a b xs ys hab hrest ih =>
    cases i with
    | zero =>
      obtain rfl := Option.some.inj hx
      exact ⟨b, rfl, hab⟩
    | succ i => exact ih hx

namespace Group

variable {V H : Type} {R : V → V → Prop} {bs : List V} {g : Group V}

/-! ## Passes -/

/-- The charts that a pass does not get to are as they were, so it does not matter where it
    stops. -/
theorem pass_stable {act : Nat → V → V × Except Fault (Option Window)}
    (hact : ∀ i b c, R b c → R b (act i c).1) (index : Nat) {cs : List V}
    (h : List.Forall₂ R bs cs) : List.Forall₂ R bs (pass act index cs).charts := by
  induction h generalizing index with
  | nil => exact .nil
  | @cons b c bs cs hbc hrest ih =>
    have hacted := hact index b c hbc
    unfold pass
    rcases hresult : act index c with ⟨d, f | moved⟩
    · rw [hresult] at hacted
      exact .cons hacted hrest
    · rw [hresult] at hacted
      exact .cons hacted (ih (index + 1))

theorem onChart_stable {α : Type} {act : V → V × Except Fault α}
    (hact : ∀ b c, R b c → R b (act c).1) (h : List.Forall₂ R bs g.charts) (index : Nat) :
    List.Forall₂ R bs (g.onChart index act).1.charts := by
  rcases Nat.lt_or_ge index g.charts.length with hi | hi
  · have hc := List.getElem?_eq_getElem hi
    rw [onChart_of_getElem? hc]
    exact forall₂_set h hc fun b hb => hact b _ hb
  · rw [onChart_of_le hi]
    exact h

variable [View V]

/-- A pass in which the charts follow a window does no more than move them. -/
theorem pass_follow_stable {w : Window} (hmove : ∀ b c, R b c → R b (View.moveTo c w).1)
    (origin : Option Nat) (index : Nat) {cs : List V} (h : List.Forall₂ R bs cs) :
    List.Forall₂ R bs (pass (follow w origin) index cs).charts := by
  refine pass_stable (fun i b c hbc => ?_) index h
  rcases follow_fst w origin i c with heq | heq
  · rw [heq]
    exact hbc
  · rw [heq]
    exact hmove b c hbc

/-! ## Calls -/

theorem appendAll_stable (hR : View.Stable R) (index : Nat) (xs : List Sample) {b c : V}
    (h : R b c) : R b (View.appendAll c index xs).1 :=
  appendAll_keeps (P := R b) (fun index x _ => hR.append index x) index xs h

theorem navigated_stable (hR : View.Stable R) (h : List.Forall₂ R bs g.charts)
    (state : Json.Value) : List.Forall₂ R bs (g.navigated state).1.charts := by
  rcases g.navigated_cases state with heq | ⟨e, -, -, heq⟩
  · rw [heq]
    exact h
  · rw [heq]
    exact pass_follow_stable (fun _ _ => hR.moveTo e.window) none 0 h

theorem redraw_stable (hR : View.Stable R) (h : List.Forall₂ R bs g.charts) :
    List.Forall₂ R bs g.redraw.1.charts := by
  rw [redraw_charts]
  exact pass_stable (fun _ _ _ => hR.redraw) 0 h

variable [Recorder H]

theorem notify_stable (hR : View.Stable R) (hg : List.Forall₂ R bs g.charts) (h : H)
    (origin : Nat) (w : Window) : List.Forall₂ R bs (g.notify h origin w).1.charts := by
  rw [notify_eq]
  split
  · exact hg
  · split
    · exact hg
    · rcases Recorder.push h ⟨g.id, w⟩ with ⟨h', f | ⟨⟩⟩
      · exact hg
      · dsimp only
        rw [spread_eq]
        exact pass_follow_stable (fun _ _ => hR.moveTo w) (some origin) 0 hg

theorem userSet_stable (hR : View.Stable R) (hg : List.Forall₂ R bs g.charts) (h : H)
    (origin : Nat) (w : Window) : List.Forall₂ R bs (g.userSet h origin w).1.charts := by
  have hmoved := onChart_stable (fun _ _ => hR.moveTo (w.widenedTo g.effectiveMinimum)) hg origin
  unfold userSet
  dsimp only
  rcases hact : g.onChart origin (View.moveTo · (w.widenedTo g.effectiveMinimum)) with
    ⟨g', f | moved⟩
  · rw [hact] at hmoved
    exact hmoved
  · rw [hact] at hmoved
    exact notify_stable hR hmoved h origin _

theorem select_stable (hR : View.Stable R) (hg : List.Forall₂ R bs g.charts) (h : H)
    (origin : Nat) (p : Preset) : List.Forall₂ R bs (g.select h origin p).1.charts := by
  rcases g.select_cases h origin p with ⟨f, heq⟩ | ⟨full, -, heq⟩
  · rw [heq]
    exact hg
  · rw [heq]
    exact userSet_stable hR hg h origin _

/-- What the charts still are to others, they are after one more call. -/
theorem act_stable (hR : View.Stable R) (hg : List.Forall₂ R bs g.charts) (h : H) (a : Action) :
    List.Forall₂ R bs (g.act h a).1.charts := by
  cases a with
  | anchor => exact hg
  | notify origin w => exact notify_stable hR hg h origin w
  | userSet origin w => exact userSet_stable hR hg h origin w
  | select origin p => exact select_stable hR hg h origin p
  | navigated state => exact navigated_stable hR hg state
  | redraw => exact redraw_stable hR hg
  | apply slot samples =>
    exact onChart_stable (fun _ _ => appendAll_stable hR slot.series samples) hg slot.chart
  | append chart series x => exact onChart_stable (fun _ _ => hR.append series x) hg chart
  | moveTo chart w => exact onChart_stable (fun _ _ => hR.moveTo w) hg chart

/-- And after any run of calls. -/
theorem run_stable (hR : View.Stable R) (hg : List.Forall₂ R bs g.charts) (h : H)
    (calls : List Action) : List.Forall₂ R bs (g.run h calls).group.charts := by
  induction calls generalizing g h with
  | nil => exact hg
  | cons a rest ih => exact ih (act_stable hR hg h a) (g.act h a).2.1

end Group

end LinkedCharts
