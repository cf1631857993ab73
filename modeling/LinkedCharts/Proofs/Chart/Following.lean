import LinkedCharts.Proofs.Chart.Coverage
import LinkedCharts.Proofs.Window.Near

/-!
# Following live data

A drawing first grows the axis to the newest samples. If all of the full window was visible before,
the visible window grows with it; otherwise it stays where it is. Which of the two is decided anew
at every drawing, from the distances between the ends of the two windows. While only data comes in,
the decision never changes: a window that follows equals the full window after each growth, and a
full window that grows around a window that does not follow only gets farther away from it.

Results:
* `Axis.Step`, `Chart.redraw_step`: what a drawing does to an axis, and what it reports.
* `Axis.Inside`, `Axis.Keeps`: a finite axis that shows a part of itself, and what live data leaves
  of it.
* `Axis.Step.keeps`, `Chart.run_keeps`: one drawing, and any number of samples and drawings.
* `Chart.live_data_keeps_following`: whether a window follows is never changed by live data.
-/

namespace LinkedCharts

open Binary64

namespace Axis

variable {a b d : Axis} {moved : Option Window}

theorem tolerance_isFinite : tolerance.isFinite = true := by decide +kernel

theorem tolerance_place : ∃ t, tolerance.place = some t ∧ 0 ≤ t := by
  have hsign : ¬ tolerance.place.getD (-1) < 0 := by decide +kernel
  obtain ⟨t, ht, -, -⟩ := isFinite_iff_place.1 tolerance_isFinite
  rw [ht] at hsign
  exact ⟨t, ht, Int.not_lt.1 hsign⟩

/-- A finite axis that shows a window with the same ends as its full one shows all of itself. -/
theorem showsAll_of_same (hfull : a.full.WellFormed) (h : a.visible.Same a.full) : a.ShowsAll :=
  h.near hfull tolerance_place

/-- Only a finite axis shows all of itself. -/
theorem ShowsAll.full_wellFormed (h : a.ShowsAll) (hordered : a.full.Ordered) :
    a.full.WellFormed := by
  obtain ⟨-, hlo, hhi⟩ := Window.Near.isFinite h tolerance_isFinite
  exact hordered.wellFormed hlo hhi

/-! ## Growing -/

/-- A window that the full window of an axis can grow to. -/
structure Grows (a : Axis) (full : Window) : Prop where
  ordered : full.Ordered
  covers : full.Covers a.full
  finite : a.full.WellFormed → full.WellFormed

/-- An axis that did not have to grow is the same. -/
theorem eq_of_growTo?_false {time : Binary64} (h : a.growTo? time = .ok (b, false)) : b = a := by
  unfold growTo? at h
  split at h
  · cases h
  · split at h
    · cases h
      rfl
    · obtain ⟨point, -, h⟩ := bind_eq_ok_iff.1 h
      cases h

theorem eq_of_growAxis?_false {series : List Series} {grew : Bool}
    (h : Chart.growAxis? a grew series = .ok (b, false)) : grew = false ∧ b = a := by
  induction series generalizing a grew with
  | nil =>
    cases h
    exact ⟨rfl, rfl⟩
  | cons s rest ih =>
    unfold Chart.growAxis? at h
    split at h
    · exact ih h
    · obtain ⟨⟨a', more⟩, ha', h⟩ := bind_eq_ok_iff.1 h
      obtain ⟨hmore, rfl⟩ := ih h
      obtain ⟨rfl, rfl⟩ := Bool.or_eq_false_iff.1 hmore
      exact ⟨rfl, eq_of_growTo?_false ha'⟩

/-- Growing changes the full window only, and keeps it finite. -/
theorem growAxis?_full {series : List Series} {grew grew' : Bool}
    (h : Chart.growAxis? a grew series = .ok (b, grew')) :
    b.visible = a.visible ∧ (a.full.WellFormed → b.full.WellFormed) := by
  induction series generalizing a grew with
  | nil =>
    cases h
    exact ⟨rfl, id⟩
  | cons s rest ih =>
    unfold Chart.growAxis? at h
    split at h
    · exact ih h
    · obtain ⟨⟨a', more⟩, ha', h⟩ := bind_eq_ok_iff.1 h
      obtain ⟨hvisible, hfinite⟩ := ih h
      obtain ⟨htime, hvisible', hfull⟩ := growTo?_eq_ok ha'
      refine ⟨hvisible.trans hvisible', fun ha => hfinite ?_⟩
      rcases hfull with ⟨hfull, -⟩ | hfull
      · rw [hfull]
        exact ha
      · rw [hfull]
        exact ha.union (point_wellFormed htime)

theorem growAxis?_grows {series : List Series} {grew grew' : Bool} (ha : a.full.Ordered)
    (h : Chart.growAxis? a grew series = .ok (b, grew')) : a.Grows b.full := by
  obtain ⟨hordered, hcovers, -⟩ := growAxis?_covers ha h
  exact ⟨hordered, hcovers, (growAxis?_full h).2⟩

/-! ## One drawing -/

/-- What a drawing does to an axis, and the window that it reports if it succeeds. -/
inductive Step (a : Axis) : Axis → Option Window → Prop
  /-- there is nothing beyond the full window -/
  | rest : Step a a none
  /-- the full window grows around the visible one -/
  | zoomed (full : Window) (grows : a.Grows full) (h : ¬ a.ShowsAll) : Step a ⟨full, a.visible⟩ none
  /-- both windows grow -/
  | follow (full : Window) (grows : a.Grows full) (h : a.ShowsAll) : Step a ⟨full, full⟩ (some full)
  /-- the full window grows to the visible one -/
  | reach (full : Window) (grows : a.Grows full) (h : a.ShowsAll) (same : a.visible.Same full) :
    Step a ⟨full, a.visible⟩ none

/-- A window that is reported is the new full window, and the visible one. -/
theorem Step.reported (h : a.Step b moved) :
    (¬ a.ShowsAll → moved = none) ∧ ∀ w ∈ moved, w = b.full ∧ w = b.visible := by
  cases h with
  | rest => simp
  | zoomed full _ _ => simp
  | follow full _ hshows => simp [hshows]
  | reach full _ _ _ => simp

theorem Step.ordered (h : a.Step b moved) (ha : a.full.Ordered) : b.full.Ordered := by
  cases h with
  | rest => exact ha
  | zoomed full grows _ => exact grows.ordered
  | follow full grows _ => exact grows.ordered
  | reach full grows _ _ => exact grows.ordered

end Axis

namespace Chart

variable {c : Chart} {a : Axis}

/-- Following the data is a step of the axis, or fails and leaves it alone. -/
theorem followData_step (ha : c.axis = some a) (hordered : a.full.Ordered) :
    ∃ b moved, a.Step b moved ∧ c.followData.1.axis = some b ∧
      ∀ m, c.followData.2 = .ok m → m = moved := by
  unfold followData
  rw [ha]
  dsimp only
  split
  · exact ⟨a, none, .rest, ha, fun m hm => by cases hm⟩
  · rename_i grown grew hgrown
    have hgrows := Axis.growAxis?_grows hordered hgrown
    have hvisible := (Axis.growAxis?_full hgrown).1
    have hself : grown = ⟨grown.full, a.visible⟩ := by rw [← hvisible]
    by_cases hshow : (grew : Prop) ∧ a.ShowsAll
    · rw [if_pos hshow]
      unfold Axis.showAll Axis.moveTo
      by_cases hsame : grown.visible.Same grown.full
      · rw [if_pos hsame]
        rw [hvisible] at hsame
        refine ⟨grown, none, ?_, rfl, fun m hm => (Except.ok.inj hm).symm⟩
        rw [hself]
        exact .reach grown.full hgrows hshow.2 hsame
      · rw [if_neg hsame]
        exact ⟨_, _, .follow grown.full hgrows hshow.2, rfl, fun m hm => (Except.ok.inj hm).symm⟩
    · rw [if_neg hshow]
      refine ⟨grown, none, ?_, rfl, fun m hm => (Except.ok.inj hm).symm⟩
      cases grew with
      | false =>
        obtain ⟨-, rfl⟩ := Axis.eq_of_growAxis?_false hgrown
        exact .rest
      | true =>
        rw [hself]
        exact .zoomed grown.full hgrows fun h => hshow ⟨rfl, h⟩

/-- A drawing is a step of the axis, whatever the canvas answers. -/
theorem redraw_step (ha : c.axis = some a) (hordered : a.full.Ordered) :
    ∃ b moved, a.Step b moved ∧ c.redraw.1.axis = some b ∧
      ∀ m, c.redraw.2 = .ok m → m = moved := by
  obtain ⟨b, moved, hstep, hb, hmoved⟩ := followData_step ha hordered
  refine ⟨b, moved, hstep, ?_, fun m hm => hmoved m ?_⟩
  · obtain ⟨canvas, redraws, heq⟩ := c.redraw_leaves
    rw [heq]
    exact hb
  · unfold redraw at hm
    split at hm
    · cases hm
    · rename_i heq
      rw [heq] at hb ⊢
      dsimp only at hb
      rw [hb] at hm
      dsimp only at hm
      split at hm
      · cases hm
      · exact hm

/-! ## Live data -/

/-- Data comes in or is drawn; nobody moves the window. -/
def Event.IsLive : Event → Prop
  | .append .. | .redraw => True
  | .moveTo _ => False

instance : DecidablePred Event.IsLive := fun e =>
  match e with
  | .append .. | .redraw => inferInstanceAs (Decidable True)
  | .moveTo _ => inferInstanceAs (Decidable False)

/-- A live event leaves an axis alone, or takes a step with it. -/
theorem act_step (ha : c.axis = some a) (hordered : a.full.Ordered) {e : Event} (he : e.IsLive) :
    ∃ b moved, a.Step b moved ∧ (c.act e).axis = some b := by
  cases e with
  | append index x => exact ⟨a, none, .rest, (append_axis c index x).trans ha⟩
  | moveTo w => cases he
  | redraw =>
    obtain ⟨b, moved, hstep, hb, -⟩ := redraw_step ha hordered
    exact ⟨b, moved, hstep, hb⟩

end Chart

/-! ## Windows that follow, and windows that do not -/

namespace Axis

variable {a b d : Axis} {moved : Option Window}

/-- A finite axis whose visible window lies in its full one. -/
structure Inside (a : Axis) : Prop where
  full : a.full.WellFormed
  visible : a.visible.WellFormed
  covers : a.full.Covers a.visible

/-- What live data leaves of an axis: its full window has not shrunk, whether it shows all of itself
    is as it was, and if it does not, its visible window is as it was. -/
structure Keeps (a b : Axis) : Prop where
  inside : b.Inside
  covers : b.full.Covers a.full
  shows : b.ShowsAll ↔ a.ShowsAll
  visible : ¬ a.ShowsAll → b.visible = a.visible

theorem Keeps.refl (ha : a.Inside) : a.Keeps a :=
  ⟨ha, ha.full.ordered.covers_self, Iff.rfl, fun _ => rfl⟩

theorem Keeps.trans (h : a.Keeps b) (h' : b.Keeps d) : a.Keeps d where
  inside := h'.inside
  covers := h'.covers.trans h.covers
  shows := h'.shows.trans h.shows
  visible := fun ha => (h'.visible (mt h.shows.1 ha)).trans (h.visible ha)

/-- A drawing does not change whether an axis shows all of itself: it shows all of it if the windows
    end up equal, and a visible window that was not near the full one is not near a larger one. -/
theorem Step.keeps (h : a.Step b moved) (ha : a.Inside) : a.Keeps b := by
  cases h with
  | rest => exact .refl ha
  | zoomed full grows hzoomed =>
    have hfull := grows.finite ha.full
    have hnot : ¬ a.visible.Near full tolerance := fun hnear =>
      hzoomed (hnear.of_covers ha.visible ha.full hfull grows.covers ha.covers)
    exact ⟨⟨hfull, ha.visible, grows.covers.trans ha.covers⟩, grows.covers,
      ⟨fun h => absurd h hnot, fun h => absurd h hzoomed⟩, fun _ => rfl⟩
  | follow full grows hshows =>
    have hfull := grows.finite ha.full
    have hall : (Axis.mk full full).ShowsAll :=
      showsAll_of_same hfull (Window.Same.refl hfull.ordered)
    exact ⟨⟨hfull, hfull, hfull.ordered.covers_self⟩, grows.covers,
      ⟨fun _ => hshows, fun _ => hall⟩, fun h => absurd hshows h⟩
  | reach full grows hshows hsame =>
    have hfull := grows.finite ha.full
    have hall : (Axis.mk full a.visible).ShowsAll := showsAll_of_same hfull hsame
    exact ⟨⟨hfull, ha.visible, grows.covers.trans ha.covers⟩, grows.covers,
      ⟨fun _ => hshows, fun _ => hall⟩, fun h => absurd hshows h⟩

end Axis

namespace Chart

variable {c : Chart} {a : Axis}

theorem run_keeps (ha : c.axis = some a) (hinside : a.Inside) {events : List Event}
    (hlive : ∀ e ∈ events, e.IsLive) : ∃ b, (c.run events).axis = some b ∧ a.Keeps b := by
  induction events generalizing c a with
  | nil => exact ⟨a, ha, .refl hinside⟩
  | cons e rest ih =>
    obtain ⟨he, hrest⟩ := List.forall_mem_cons.1 hlive
    obtain ⟨b, moved, hstep, hb⟩ := act_step ha hinside.full.ordered he
    have hkeeps := hstep.keeps hinside
    obtain ⟨d, hd, hkeeps'⟩ := ih hb hkeeps.inside hrest
    exact ⟨d, hd, hkeeps.trans hkeeps'⟩

/-- Live data never changes whether a window follows. The chart has a finite axis that shows a part
    of itself, and then takes samples and is drawn, in any order and whatever the canvas answers.
    After any of these events the axis shows all of itself just if it did at the start, and if not,
    its visible window is still the one of the start. A drawing that succeeds reports no window if
    the axis did not show all of itself at the start, and a window that it reports is the full
    window and the visible one after it. The full window never shrinks. -/
theorem live_data_keeps_following (ha : c.axis = some a) (hfull : a.full.WellFormed)
    (hvisible : a.visible.WellFormed) (hinside : a.full.Covers a.visible)
    {before after : List Event} (hbefore : ∀ e ∈ before, e.IsLive)
    (hafter : ∀ e ∈ after, e.IsLive) :
    ∃ b d, (c.run before).axis = some b ∧ (c.run (before ++ after)).axis = some d ∧
      (b.ShowsAll ↔ a.ShowsAll) ∧ (¬ a.ShowsAll → b.visible = a.visible) ∧
      d.full.Covers b.full ∧
      ∀ moved, (c.run before).redraw.2 = .ok moved →
        (¬ a.ShowsAll → moved = none) ∧
        ∀ w ∈ moved, (c.run before).redraw.1.full? = some w ∧
          (c.run before).redraw.1.visible? = some w := by
  obtain ⟨b, hb, hkeeps⟩ := run_keeps ha ⟨hfull, hvisible, hinside⟩ hbefore
  obtain ⟨d, hd, hkeeps'⟩ := run_keeps hb hkeeps.inside hafter
  refine ⟨b, d, hb, ?_, hkeeps.shows, hkeeps.visible, hkeeps'.covers, fun moved hmoved => ?_⟩
  · unfold run at hd ⊢
    rwa [List.foldl_append]
  · obtain ⟨e, reported, hstep, he, heq⟩ := redraw_step hb hkeeps.inside.full.ordered
    obtain rfl := heq moved hmoved
    obtain ⟨hnone, hsome⟩ := hstep.reported
    refine ⟨fun h => hnone (mt hkeeps.shows.1 h), fun w hw => ?_⟩
    obtain ⟨hwfull, hwvisible⟩ := hsome w hw
    unfold full? visible?
    rw [he, hwvisible]
    exact ⟨congrArg some (hwfull.symm.trans hwvisible), rfl⟩

/-- A chart over two series that shows all of its data, and a canvas that refuses the first
    drawing. -/
def unlucky : Chart := { lopsided with canvas := .blank [1] }

/-- The axis grows at the drawing that is refused, and still shows all of itself. -/
theorem live_data_keeps_following_refused :
    ∃ b d, (unlucky.run [.append 1 ⟨50, 1⟩, .redraw]).axis = some b ∧
      (unlucky.run ([.append 1 ⟨50, 1⟩, .redraw] ++ [.append 0 ⟨250, 1⟩])).axis = some d ∧
      b.ShowsAll := by
  have hbefore : ∀ e ∈ [Event.append 1 ⟨50, 1⟩, .redraw], e.IsLive := by decide
  have hafter : ∀ e ∈ [Event.append 0 ⟨250, 1⟩], e.IsLive := by decide
  have hshown : (Axis.mk ⟨100, 200⟩ ⟨100, 200⟩).ShowsAll := by decide +kernel
  obtain ⟨b, d, hb, hd, hshows, -⟩ := live_data_keeps_following (c := unlucky)
    (a := ⟨⟨100, 200⟩, ⟨100, 200⟩⟩) rfl (by decide +kernel) (by decide +kernel) (by decide +kernel)
    hbefore hafter
  exact ⟨b, d, hb, hd, hshows.2 hshown⟩

end Chart

end LinkedCharts
