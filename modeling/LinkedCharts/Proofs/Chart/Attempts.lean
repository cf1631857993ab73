import LinkedCharts.Proofs.Chart

/-!
# Attempts to move a chart

A chart can refuse a move, and counts the attempt all the same. One that has moved to a window is
not changed any further by moving there again. So a chart that is moved to the same window several
times, and refuses some of that, is at any time as it was or as it is to be.

Results:
* `Chart.Refuses`, `Chart.Kept`: the next move is refused, and a chart as it was.
* `Chart.moveTo_cases`: a move is refused or shows its window.
* `Chart.Halfway`: a chart as it was or as it is to be.
-/

namespace LinkedCharts

namespace Chart

variable {b c d : Chart} {w : Window}

/-- The chart refuses the next move. -/
def Refuses (c : Chart) : Prop := c.moves.next.IsRefused

instance (c : Chart) : Decidable c.Refuses := inferInstanceAs (Decidable (Calls.IsRefused _))

/-- A chart as it was, apart from attempts to move it, which are counted. -/
def Kept (before after : Chart) : Prop := after = { before with moves := after.moves }

instance (before after : Chart) : Decidable (before.Kept after) :=
  inferInstanceAs (Decidable (_ = _))

theorem Kept.refl (c : Chart) : c.Kept c := rfl

theorem kept_moves (c : Chart) (moves : Calls) : c.Kept { c with moves } := rfl

theorem Kept.trans (h : b.Kept c) (h' : c.Kept d) : b.Kept d := by
  rw [h', h]
  exact kept_moves b d.moves

theorem Kept.shown (h : c.Kept d) (w : Window) : (c.shown w).Kept (d.shown w) := by
  rw [h]
  exact kept_moves (c.shown w) d.moves.next

/-- Moving an axis to the same window once more does nothing. -/
theorem moveTo_moveTo (a : Axis) (hw : w.Ordered) :
    ((a.moveTo w).1.moveTo w).1 = (a.moveTo w).1 := by
  have hsame := Axis.moveTo_visible a hw
  generalize (a.moveTo w).1 = moved at hsame ⊢
  unfold Axis.moveTo
  rw [if_pos hsame]

theorem kept_shown_shown (c : Chart) (hw : w.Ordered) : (c.shown w).Kept ((c.shown w).shown w) := by
  unfold Kept Chart.shown
  cases c.axis with
  | none => rfl
  | some a => simp only [Option.map_some, moveTo_moveTo a hw]

/-- A move of a chart is refused, and then only counted, or shows its window if there is an axis. -/
theorem moveTo_cases (c : Chart) (w : Window) :
    c.Kept (c.moveTo w).1 ∨ (c.moveTo w).1 = c.shown w := by
  by_cases hr : c.moves.next.IsRefused
  · rw [moveTo_of_refused hr]
    exact Or.inl (c.kept_moves _)
  · rw [moveTo_of_not_refused hr]
    exact Or.inr rfl

theorem moveTo_of_ok {moved : Bool} (h : (c.moveTo w).2 = .ok moved) :
    (c.moveTo w).1 = c.shown w := by
  by_cases hr : c.moves.next.IsRefused
  · rw [moveTo_of_refused hr] at h
    cases h
  · rw [moveTo_of_not_refused hr]

/-- The chart is as it was, or as it is to be. -/
def Halfway (w : Window) (before after : Chart) : Prop :=
  before.Kept after ∨ (before.shown w).Kept after

theorem Halfway.moveTo (h : Halfway w b c) (hw : w.Ordered) : Halfway w b (c.moveTo w).1 := by
  rcases c.moveTo_cases w with hkept | hshown
  · exact h.imp (·.trans hkept) (·.trans hkept)
  · rw [hshown]
    rcases h with h | h
    · exact Or.inr (h.shown w)
    · exact Or.inr ((b.kept_shown_shown hw).trans (h.shown w))

/-- A chart that was halfway is as it is to be once it has moved. -/
theorem Halfway.shown (h : Halfway w b c) (hw : w.Ordered) : (b.shown w).Kept (c.shown w) := by
  rcases h with h | h
  · exact h.shown w
  · exact (b.kept_shown_shown hw).trans (h.shown w)

theorem Halfway.minimumSpan (h : Halfway w b c) : c.minimumSpan = b.minimumSpan := by
  rcases h with h | h
  · rw [h]
    rfl
  · rw [h]
    rfl

end Chart

end LinkedCharts
