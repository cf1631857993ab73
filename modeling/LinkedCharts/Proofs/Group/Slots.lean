import LinkedCharts.Proofs.Group.Plan
import LinkedCharts.Proofs.Group.Steps
import LinkedCharts.Proofs.Series

/-!
# Slots through runs

A slot stands for a series by its place alone. Views keep their places in a group, and series keep
theirs in a view, so a slot stands for the same series after any run.

A group does not see how its views keep their series. It relies on them to do with the data what
they are asked to and no more.

Results:
* `View.KeepsSeries`: views that do so.
* `View.Extends`, `View.extends_stable`: every series is still there, and has at most been offered
  samples.
* `Group.run_seriesIn?`: that is so in all slots of a group, after any run.
-/

namespace LinkedCharts

/-! ## Views and their series -/

/-- A view whose series change only by the samples that are offered to them. An offer may fail, and
    leaves the series alone then. -/
structure View.KeepsSeries (V : Type) [View V] : Prop where
  moveTo : ∀ (c : V) (w : Window), View.series (View.moveTo c w).1 = View.series c
  append : ∀ (c : V) (index : Nat) (x : Sample),
    View.series (View.append c index x).1 = View.series c ∨
      View.series (View.append c index x).1 = (View.series c).modify index (·.append x)
  redraw : ∀ c : V, View.series (View.redraw c).1 = View.series c

/-- Every series of the first view is one of the second view, in the same place, but for samples
    that were offered to it. -/
def View.Extends {V : Type} [View V] (b c : V) : Prop :=
  ∀ (k : Nat) (s : Series), (View.series b)[k]? = some s →
    ∃ offered, (View.series c)[k]? = some (s.appendAll offered)

theorem View.Extends.refl {V : Type} [View V] (c : V) : View.Extends c c :=
  fun _ _ hs => ⟨[], hs⟩

theorem View.Extends.of_series {V : Type} [View V] {b c d : V} (h : View.Extends b c)
    (heq : View.series d = View.series c) : View.Extends b d := by
  intro k s hs
  rw [heq]
  exact h k s hs

/-- One sample more that is offered to a series of the second view. -/
theorem View.Extends.append {V : Type} [View V] {b c d : V} (h : View.Extends b c) {index : Nat}
    {x : Sample} (hd : View.series d = (View.series c).modify index (·.append x)) :
    View.Extends b d := by
  intro k s hs
  obtain ⟨offered, hc⟩ := h k s hs
  rw [hd]
  rcases Nat.decEq index k with hk | rfl
  · exact ⟨offered, (List.getElem?_modify_ne _ _ hk).trans hc⟩
  · refine ⟨offered ++ [x], ?_⟩
    rw [List.getElem?_modify_eq, hc, Series.appendAll_append]
    rfl

theorem View.extends_stable {V : Type} [View V] (hV : View.KeepsSeries V) :
    View.Stable (View.Extends (V := V)) where
  moveTo w h := h.of_series (hV.moveTo _ w)
  append index x h := (hV.append _ index x).elim h.of_series h.append
  redraw h := h.of_series (hV.redraw _)

/-! ## Runs -/

namespace Group

variable {V H : Type} [View V] [Recorder H] {g : Group V} {slot : Slot} {s : Series}

/-- Whatever is called, a series stays in its slot, and at most has samples offered to it. -/
theorem run_seriesIn? (hV : View.KeepsSeries V) (hs : g.seriesIn? slot = some s) (h : H)
    (calls : List Action) :
    ∃ offered, (g.run h calls).group.seriesIn? slot = some (s.appendAll offered) := by
  obtain ⟨b, hb, hseries⟩ := seriesIn?_eq_some_iff.1 hs
  have hcharts : List.Forall₂ View.Extends g.charts (g.run h calls).group.charts :=
    run_stable (View.extends_stable hV) (List.forall₂_same.2 fun c _ => .refl c) h calls
  obtain ⟨c, hc, hextends⟩ := exists_getElem?_of_forall₂ hcharts hb
  obtain ⟨offered, hlater⟩ := hextends _ s hseries
  exact ⟨offered, seriesIn?_eq_some_iff.2 ⟨c, hc, hlater⟩⟩

end Group

end LinkedCharts
