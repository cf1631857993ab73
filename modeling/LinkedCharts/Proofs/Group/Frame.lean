import LinkedCharts.Proofs.Group.Sweep

/-!
# What a step leaves alone

The steps of a group reach its charts only by moving them, and a history only by writing an entry in
the name of the group. So a group keeps its name, its charts keep whatever a move keeps, and a
history is as before but for one entry.

Results:
* `Group.notify_id`, `Group.userSet_id`, `Group.select_id`, `Group.navigated_id`: the name stays.
* `Group.notify_forall`, `Group.userSet_forall`, `Group.select_forall`, `Group.navigated_forall`:
  what the moves of a step keep holds of all charts after it.
* `Group.userSet_history`, `Group.select_history`, `Group.anchor_history`: what a step writes.
-/

namespace LinkedCharts

namespace Group

variable {V H : Type}

/-! ## The name -/

theorem onChart_id {α : Type} (g : Group V) (index : Nat) (act : V → V × Except Fault α) :
    (g.onChart index act).1.id = g.id := by
  rcases Nat.lt_or_ge index g.charts.length with hi | hi
  · rw [onChart_of_getElem? (List.getElem?_eq_getElem hi)]
  · rw [onChart_of_le hi]

variable [View V]

section Recorded

variable [Recorder H]

theorem notify_id (g : Group V) (h : H) (origin : Nat) (w : Window) :
    (g.notify h origin w).1.id = g.id := by
  rw [notify_eq]
  split
  · rfl
  · split
    · rfl
    · rcases Recorder.push h ⟨g.id, w⟩ with ⟨h', f | ⟨⟩⟩
      · rfl
      · dsimp only
        rw [spread_eq]

theorem userSet_id (g : Group V) (h : H) (origin : Nat) (w : Window) :
    (g.userSet h origin w).1.id = g.id := by
  have hmoved := g.onChart_id origin (View.moveTo · (w.widenedTo g.effectiveMinimum))
  unfold userSet
  dsimp only
  rcases hact : g.onChart origin (View.moveTo · (w.widenedTo g.effectiveMinimum)) with
    ⟨g', f | moved⟩
  · rw [hact] at hmoved
    exact hmoved
  · rw [hact] at hmoved
    exact (notify_id g' h origin _).trans hmoved

/-- A preset that is selected is the window that it stands for on the chart, if that has an axis. -/
theorem select_cases (g : Group V) (h : H) (origin : Nat) (p : Preset) :
    (∃ f, g.select h origin p = (g, h, .error f)) ∨
    (∃ full, g.charts[origin]?.bind View.full? = some full ∧
      g.select h origin p = g.userSet h origin (p.resolve full)) := by
  unfold select chart?
  cases g.charts[origin]? with
  | none => exact Or.inl ⟨_, rfl⟩
  | some c =>
    dsimp only
    cases hfull : View.full? c with
    | none => exact Or.inl ⟨_, rfl⟩
    | some full => exact Or.inr ⟨full, hfull, rfl⟩

theorem select_id (g : Group V) (h : H) (origin : Nat) (p : Preset) :
    (g.select h origin p).1.id = g.id := by
  rcases g.select_cases h origin p with ⟨f, heq⟩ | ⟨full, -, heq⟩
  · rw [heq]
  · rw [heq, userSet_id]

end Recorded

theorem navigated_id (g : Group V) (state : Json.Value) : (g.navigated state).1.id = g.id := by
  rcases g.navigated_cases state with heq | ⟨e, -, -, heq⟩
  · rw [heq]
  · rw [heq]

/-! ## The charts -/

variable {P : V → Prop} {g : Group V}

theorem pass_follow_forall {w : Window} (hmove : ∀ c, P c → P (View.moveTo c w).1)
    (origin : Option Nat) (hall : ∀ c ∈ g.charts, P c) :
    ∀ c ∈ (pass (follow w origin) 0 g.charts).charts, P c := by
  refine pass_forall (fun _ hc => hc) ?_ 0 hall
  intro index c hc
  rcases follow_fst w origin index c with heq | heq
  · rw [heq]
    exact hc
  · rw [heq]
    exact hmove c hc

section Recorded

variable [Recorder H]

theorem notify_forall {w : Window} (hmove : ∀ c, P c → P (View.moveTo c w).1)
    (hall : ∀ c ∈ g.charts, P c) (h : H) (origin : Nat) :
    ∀ c ∈ (g.notify h origin w).1.charts, P c := by
  rw [notify_eq]
  split
  · exact hall
  · split
    · exact hall
    · rcases Recorder.push h ⟨g.id, w⟩ with ⟨h', f | ⟨⟩⟩
      · exact hall
      · dsimp only
        rw [spread_eq]
        exact pass_follow_forall hmove (some origin) hall

theorem userSet_forall {w : Window}
    (hmove : ∀ c, P c → P (View.moveTo c (w.widenedTo g.effectiveMinimum)).1)
    (hall : ∀ c ∈ g.charts, P c) (h : H) (origin : Nat) :
    ∀ c ∈ (g.userSet h origin w).1.charts, P c := by
  have hmoved := onChart_forall hmove hall origin
  unfold userSet
  dsimp only
  rcases hact : g.onChart origin (View.moveTo · (w.widenedTo g.effectiveMinimum)) with
    ⟨g', f | moved⟩
  · rw [hact] at hmoved
    exact hmoved
  · rw [hact] at hmoved
    exact notify_forall hmove hmoved h origin

theorem select_forall {origin : Nat} {p : Preset}
    (hmove : ∀ full ∈ g.charts[origin]?.bind View.full?, ∀ c, P c →
      P (View.moveTo c ((p.resolve full).widenedTo g.effectiveMinimum)).1)
    (hall : ∀ c ∈ g.charts, P c) (h : H) : ∀ c ∈ (g.select h origin p).1.charts, P c := by
  rcases g.select_cases h origin p with ⟨f, heq⟩ | ⟨full, hfull, heq⟩
  · rw [heq]
    exact hall
  · rw [heq]
    exact userSet_forall (hmove full hfull) hall h origin

end Recorded

theorem navigated_forall {state : Json.Value}
    (hmove : ∀ e, Entry.ofState? state = some e → ∀ c, P c → P (View.moveTo c e.window).1)
    (hall : ∀ c ∈ g.charts, P c) : ∀ c ∈ (g.navigated state).1.charts, P c := by
  rcases g.navigated_cases state with heq | ⟨e, he, -, heq⟩
  · rw [heq]
    exact hall
  · rw [heq]
    exact pass_follow_forall (hmove e he) none hall

/-! ## The history -/

variable [Recorder H]

/-- A report writes nothing, or its window as a new state. -/
theorem notify_history (g : Group V) (h : H) (origin : Nat) (w : Window) :
    (g.notify h origin w).2.1 = h ∨
      (g.notify h origin w).2.1 = (Recorder.push h ⟨g.id, w⟩).1 := by
  rw [notify_eq]
  split
  · exact Or.inl rfl
  · split
    · exact Or.inl rfl
    · right
      rcases Recorder.push h ⟨g.id, w⟩ with ⟨h', f | ⟨⟩⟩
      · rfl
      · dsimp only
        rw [spread_eq]

/-- A user's window is written at most once, as a new state and in the name of the group. -/
theorem userSet_history (g : Group V) (h : H) (origin : Nat) (w : Window) :
    (g.userSet h origin w).2.1 = h ∨
      ∃ v, (g.userSet h origin w).2.1 = (Recorder.push h ⟨g.id, v⟩).1 := by
  have hid := g.onChart_id origin (View.moveTo · (w.widenedTo g.effectiveMinimum))
  unfold userSet
  dsimp only
  rcases hact : g.onChart origin (View.moveTo · (w.widenedTo g.effectiveMinimum)) with
    ⟨g', f | moved⟩
  · exact Or.inl rfl
  · rw [hact] at hid
    have hwritten := notify_history g' h origin (w.widenedTo g.effectiveMinimum)
    rw [show g'.id = g.id from hid] at hwritten
    exact hwritten.imp_right fun heq => ⟨_, heq⟩

theorem select_history (g : Group V) (h : H) (origin : Nat) (p : Preset) :
    (g.select h origin p).2.1 = h ∨
      ∃ v, (g.select h origin p).2.1 = (Recorder.push h ⟨g.id, v⟩).1 := by
  rcases g.select_cases h origin p with ⟨f, heq⟩ | ⟨full, -, heq⟩
  · rw [heq]
    exact Or.inl rfl
  · rw [heq]
    exact g.userSet_history h origin (p.resolve full)

/-- A group that shows a window writes it over the current state when it is anchored. -/
theorem anchor_history {w : Window} (hw : g.shared? = some w) (h : H) :
    (g.anchor h).1 = (Recorder.replace h ⟨g.id, w⟩).1 := by
  unfold anchor
  rw [hw]
  dsimp only
  rcases Recorder.replace h ⟨g.id, w⟩ with ⟨h', f | ⟨⟩⟩
  · rfl
  · rfl

theorem anchor_of_none (hw : g.shared? = none) (h : H) : g.anchor h = (h, .ok false) := by
  unfold anchor
  rw [hw]

end Group

end LinkedCharts
