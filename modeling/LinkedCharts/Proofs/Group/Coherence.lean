import LinkedCharts.Proofs.Group.Broadcast
import LinkedCharts.Proofs.Group.Run
import LinkedCharts.Proofs.History.Trail

/-!
# History and charts stay together

A group is anchored on a fresh trail, and then users choose windows and presets and go back and
forward along the trail. Calls on charts that do not exist, or have no axis, are refused and change
nothing that shows.

Going back can land on any state that was ever written, so the invariant speaks of all states of the
trail: each one is an entry of the group that can be read back. That takes a name that is not empty.
A group whose name was read as the empty one can be anchored too, but gets nothing back from its
trail.

Results:
* `Session`, `Session.visit`, `Session.run`: a group at work with a trail of its own.
* `Session.Coherent`: the invariant.
* `Session.visit_coherent`: every visit keeps it.
* `Session.run_coherent`: after any visits the current entry is the window that the group shows.
* `Session.run_forgets_unnamed`: with an empty name there is no current entry, and going back shows
  nothing.
-/

namespace LinkedCharts

open Json

/-! ## Sessions -/

/-- A group at work with a navigation trail of its own. -/
structure Session where
  group : Group
  trail : Trail
  /-- a window was shown on all charts, because a user chose it or it was restored -/
  joined : Bool

/-- What a user does. -/
inductive Visit
  | userSet (origin : Nat) (w : Window)
  | select (origin : Nat) (p : Preset)
  | back
  | forward

/-- The user's window, if the visit chooses one, has its ends in order. -/
def Visit.Ordered : Visit → Prop
  | .userSet _ w => w.Ordered
  | .select .. | .back | .forward => True

instance : DecidablePred Visit.Ordered := fun v =>
  match v with
  | .userSet _ w => inferInstanceAs (Decidable w.Ordered)
  | .select .. | .back | .forward => inferInstanceAs (Decidable True)

namespace Session

/-- A group whose window has become the base of a fresh trail. -/
def start (g : Group) : Session := ⟨g, (g.anchor Trail.start).1, false⟩

/-- The group has answered to a user's choice. -/
def chose (s : Session) (result : Group × Trail × Except Fault Outcome) : Session :=
  ⟨result.1, result.2.1, s.joined || result.2.2 matches .ok (.broadcast _)⟩

/-- The trail has moved, and the group hears of the state reached if there is one. -/
def went (s : Session) : Trail × Option Value → Session
  | (trail, none) => { s with trail }
  | (trail, some state) =>
    let (group, answer) := s.group.navigated state
    ⟨group, trail, s.joined || answer matches .ok true⟩

/-- One visit of a user. -/
def visit (s : Session) : Visit → Session
  | .userSet origin w => s.chose (s.group.userSet s.trail origin w)
  | .select origin p => s.chose (s.group.select s.trail origin p)
  | .back => s.went s.trail.back
  | .forward => s.went s.trail.forward

/-- Visits in order. -/
def run (s : Session) (visits : List Visit) : Session := visits.foldl visit s

/-- What a visit writes to the trail. -/
def writeOf (s : Session) : Visit → Option Write
  | .userSet origin w => s.group.writeOf (.userSet origin w)
  | .select origin p => s.group.writeOf (.select origin p)
  | .back | .forward => none

/-- What visits write to the trail. -/
def writes (s : Session) : List Visit → List Write
  | [] => []
  | v :: rest => (s.writeOf v).toList ++ (s.visit v).writes rest

end Session

/-- The entry that an attempt to write is about. -/
def Write.entry : Write → Entry
  | .push e => e
  | .replace e => e

/-- Both ends of the window are finite. -/
def Window.IsFinite (w : Window) : Prop := w.lo.isFinite = true ∧ w.hi.isFinite = true

instance (w : Window) : Decidable w.IsFinite := inferInstanceAs (Decidable (_ ∧ _))

/-- A group that shows a window has a first chart with an axis. -/
theorem Group.exists_first {g : Group} {w : Window} (h : g.shared? = some w) :
    ∃ c rest a, g.charts = c :: rest ∧ c.axis = some a := by
  unfold shared? at h
  cases hcharts : g.charts with
  | nil =>
    rw [hcharts] at h
    cases h
  | cons c rest =>
    rw [hcharts] at h
    change c.visible? = some w at h
    unfold Chart.visible? at h
    cases ha : c.axis with
    | none =>
      rw [ha] at h
      cases h
    | some a => exact ⟨c, rest, a, rfl, ha⟩

namespace Session

/-! ## The invariant -/

/-- All states of the trail are entries of the group that can be read back. The current one has the
    window of the first chart, and of all charts once they are joined. Every window recorded since
    the group was `base` is a push on the trail. -/
structure Coherent (base : Group) (s : Session) : Prop where
  id : s.group.id = base.id
  suppressed : s.group.suppressed = false
  plain : ∀ c ∈ s.group.charts, c.Plain
  sound : ∀ c ∈ s.group.charts, c.Sound
  entries : ∀ state ∈ s.trail.states,
    ∃ e : Entry, e.WellFormed ∧ e.group = s.group.id ∧ state = e.toState
  shows : ∃ e : Entry, e.WellFormed ∧ s.trail.current = e.toState ∧ e.group = s.group.id ∧
    (∃ w, s.group.shared? = some w ∧ w.Same e.window) ∧
    (s.joined = true → ∀ c ∈ s.group.charts, ∀ v ∈ c.visible?, v.Same e.window)
  pushes : s.group.stats.pushes = base.stats.pushes + s.trail.pushes

/-- A step that shows the window of an entry on all charts, and leaves that entry current on the
    trail, keeps the invariant. -/
theorem Coherent.of_shown {base : Group} {s s' : Session} (h : s.Coherent base) {e : Entry}
    (he : e.WellFormed) (hgroup : e.group = s.group.id)
    (hcharts : s'.group.charts = s.group.charts.map (·.shown e.window))
    (hid : s'.group.id = s.group.id) (hflag : s'.group.suppressed = s.group.suppressed)
    (hstates : ∀ state ∈ s'.trail.states, state ∈ s.trail.states ∨ state = e.toState)
    (hcurrent : s'.trail.current = e.toState)
    (hpushes : s'.group.stats.pushes + s.trail.pushes = s.group.stats.pushes + s'.trail.pushes) :
    s'.Coherent base where
  id := hid.trans h.id
  suppressed := hflag.trans h.suppressed
  plain := by
    rw [hcharts]
    intro c hc
    obtain ⟨d, hd, rfl⟩ := List.mem_map.1 hc
    exact Chart.shown_plain (h.plain d hd) e.window
  sound := by
    rw [hcharts]
    intro c hc
    obtain ⟨d, hd, rfl⟩ := List.mem_map.1 hc
    exact Chart.shown_sound (h.sound d hd) he.window.ordered
  entries := by
    intro state hstate
    rw [hid]
    rcases hstates state hstate with hold | rfl
    · exact h.entries state hold
    · exact ⟨e, he, hgroup, rfl⟩
  shows := by
    refine ⟨e, he, hcurrent, hgroup.trans hid.symm, ?_, ?_⟩
    · obtain ⟨-, -, -, -, ⟨w, hw, -⟩, -⟩ := h.shows
      obtain ⟨c, rest, a, hfirst, ha⟩ := Group.exists_first hw
      have hsome : (c.shown e.window).visible? = some (a.moveTo e.window).1.visible := by
        simp [Chart.visible?, Chart.shown, ha]
      refine ⟨_, ?_, Chart.shown_visible? c he.window.ordered hsome⟩
      unfold Group.shared?
      rw [hcharts, hfirst]
      exact hsome
    · intro _ c hc v hv
      rw [hcharts] at hc
      obtain ⟨d, -, rfl⟩ := List.mem_map.1 hc
      exact Chart.shown_visible? d he.window.ordered hv
  pushes := by
    have := h.pushes
    omega

/-- A chart without an axis that is asked to move keeps the invariant. -/
theorem Coherent.of_no_axis {base : Group} {s : Session} (h : s.Coherent base) {origin : Nat}
    {c : Chart} (hc : s.group.charts[origin]? = some c) (ha : c.axis = none) (w : Window) :
    Coherent base
      { s with group := { s.group with charts := s.group.charts.set origin (c.shown w) } } := by
  have hcp : c.Plain := h.plain c (List.mem_of_getElem? hc)
  have hcs : c.Sound := h.sound c (List.mem_of_getElem? hc)
  have hnone : (c.shown w).axis = none := by
    unfold Chart.shown
    rw [ha]
    rfl
  refine ⟨h.id, h.suppressed, ?_, ?_, h.entries, ?_, h.pushes⟩
  · intro d hd
    rcases List.mem_or_eq_of_mem_set hd with hd | rfl
    · exact h.plain d hd
    · exact Chart.shown_plain hcp w
  · intro d hd
    rcases List.mem_or_eq_of_mem_set hd with hd | rfl
    · exact h.sound d hd
    · refine ⟨hcs.minimum, ?_⟩
      rw [hnone]
      rintro b ⟨⟩
  · obtain ⟨e, he, hcurrent, hgroup, ⟨v, hv, hsame⟩, hjoined⟩ := h.shows
    refine ⟨e, he, hcurrent, hgroup, ⟨v, ?_, hsame⟩, ?_⟩
    · obtain ⟨d, rest, a, hfirst, hd⟩ := Group.exists_first hv
      cases origin with
      | zero =>
        -- the first chart has an axis, so that it is not the one that was asked
        rw [hfirst] at hc
        cases hc
        rw [ha] at hd
        cases hd
      | succ k =>
        unfold Group.shared? at hv ⊢
        dsimp only
        rw [hfirst] at hv ⊢
        exact hv
    · intro hj d hd v hv
      rcases List.mem_or_eq_of_mem_set hd with hd | rfl
      · exact hjoined hj d hd v hv
      · unfold Chart.visible? at hv
        rw [hnone] at hv
        cases hv

/-! ## Visits -/

theorem Coherent.of_refused {base : Group} {s : Session} {f : Fault} {g : Group}
    (hg : Coherent base { s with group := g }) :
    (s.chose (g, s.trail, .error f)).Coherent base := by
  unfold chose
  rw [show (s.joined || false) = s.joined from Bool.or_false _]
  exact hg

/-- A window that a user chooses keeps the invariant, if it is finite when it is recorded. -/
theorem Coherent.userSet {base : Group} {s : Session} (h : s.Coherent base)
    (hid : base.id.WellFormed) {origin : Nat} {w : Window} (hw : w.Ordered)
    (hfinite : ∀ a ∈ s.group.choice origin w, a.entry.window.IsFinite) :
    (s.chose (s.group.userSet s.trail origin w)).Coherent base := by
  cases hc : s.group.charts[origin]? with
  | none =>
    rw [Group.userSet_of_le (List.getElem?_eq_none_iff.1 hc)]
    exact .of_refused h
  | some c =>
    cases ha : c.axis with
    | none =>
      rw [Group.userSet_of_no_axis h.plain hc ha]
      exact .of_refused (h.of_no_axis hc ha _)
    | some a =>
      have hset := Group.userSet_of_plain (w := w) h.suppressed h.plain hc ha
        (show Recorder.push s.trail _ = (_, .ok ()) from rfl)
      have hchoice : s.group.choice origin w =
          some (.push ⟨s.group.id, w.widenedTo s.group.effectiveMinimum⟩) := by
        unfold Group.choice
        rw [hc]
        dsimp only
        rw [View.moveTo_chart, Chart.moveTo_of_plain (h.plain c (List.mem_of_getElem? hc)), ha]
      rw [hchoice] at hfinite
      obtain ⟨hlo, hhi⟩ := hfinite _ rfl
      rw [hset]
      refine h.of_shown (e := ⟨s.group.id, w.widenedTo s.group.effectiveMinimum⟩)
        ⟨h.id ▸ hid, (hw.widenedTo _).wellFormed hlo hhi⟩ rfl rfl rfl rfl ?_ ?_ ?_
      · exact fun state hstate => Trail.mem_push hstate
      · exact Trail.push_current _ _
      · show s.group.stats.pushes + 1 + s.trail.pushes = _ + (s.trail.pushes + 1)
        omega

theorem went_some (s : Session) (t : Trail) (state : Value) :
    s.went (t, some state) =
      ⟨(s.group.navigated state).1, t,
        s.joined || (s.group.navigated state).2 matches .ok true⟩ := rfl

/-- The state that the trail has moved to is restored, and the invariant is kept. -/
theorem Coherent.went {base : Group} {s : Session} (h : s.Coherent base)
    {result : Trail × Option Value} (hmoved : s.trail.Moved result) :
    (s.went result).Coherent base := by
  obtain ⟨t, reached⟩ := result
  cases reached with
  | none =>
    have : t = s.trail := hmoved.stays rfl
    rw [this]
    exact h
  | some state =>
    have hcurrent : t.current = state := hmoved.reached state rfl
    have hmem : state ∈ s.trail.states := by
      rw [← hcurrent, ← hmoved.states]
      exact t.current_mem
    obtain ⟨e, he, hgroup, rfl⟩ := h.entries state hmem
    rw [went_some, Group.navigated_of_plain h.plain (Entry.ofState?_toState he) hgroup]
    refine h.of_shown he hgroup rfl rfl rfl ?_ hcurrent ?_
    · intro state hstate
      rw [← hmoved.states]
      exact Or.inl hstate
    · rw [show t.pushes = s.trail.pushes from hmoved.pushes]
      rfl

/-- A preset that a user chooses keeps the invariant, as the window that it stands for does. -/
theorem Coherent.select {base : Group} {s : Session} (h : s.Coherent base)
    (hid : base.id.WellFormed) {origin : Nat} {p : Preset}
    (hfinite : ∀ a ∈ s.group.writeOf (.select origin p), a.entry.window.IsFinite) :
    (s.chose (s.group.select s.trail origin p)).Coherent base := by
  cases hc : s.group.charts[origin]? with
  | none =>
    have hselect : s.group.select s.trail origin p =
        (s.group, s.trail, .error (s.group.missing origin)) := by
      simp [Group.select, Group.chart?, hc]
    rw [hselect]
    exact .of_refused h
  | some c =>
    cases ha : c.axis with
    | none =>
      have hselect : s.group.select s.trail origin p =
          (s.group, s.trail, .error .noTimeAxis) := by
        simp [Group.select, Group.chart?, hc, Chart.full?, ha]
      rw [hselect]
      exact .of_refused h
    | some a =>
      have hfull : a.full.Ordered := ((h.sound c (List.mem_of_getElem? hc)).axis a ha).full
      have hwrite : s.group.writeOf (.select origin p) =
          s.group.choice origin (p.resolve a.full) := by
        simp [Group.writeOf, hc, Chart.full?, ha]
      rw [hwrite] at hfinite
      rw [Group.select_of_axis hc ha]
      exact h.userSet hid (Preset.resolve_ordered hfull p) hfinite

/-- Every visit keeps history and charts together. -/
theorem visit_coherent {base : Group} {s : Session} (h : s.Coherent base)
    (hid : base.id.WellFormed) {v : Visit} (hv : v.Ordered)
    (hfinite : ∀ a ∈ s.writeOf v, a.entry.window.IsFinite) : (s.visit v).Coherent base := by
  cases v with
  | userSet origin w => exact h.userSet hid hv hfinite
  | select origin p => exact h.select hid hfinite
  | back => exact h.went s.trail.back_spec
  | forward => exact h.went s.trail.forward_spec

theorem run_keeps {base : Group} (hid : base.id.WellFormed) {visits : List Visit} {s : Session}
    (h : s.Coherent base) (hordered : ∀ v ∈ visits, v.Ordered)
    (hfinite : ∀ a ∈ s.writes visits, a.entry.window.IsFinite) :
    (s.run visits).Coherent base := by
  induction visits generalizing s with
  | nil => exact h
  | cons v rest ih =>
    have hvisit := visit_coherent h hid (hordered v List.mem_cons_self)
      fun a ha => hfinite a (List.mem_append_left _ (Option.mem_toList.2 ha))
    exact ih hvisit (fun u hu => hordered u (List.mem_cons_of_mem v hu))
      fun a ha => hfinite a (List.mem_append_right _ ha)

/-! ## From the anchor on -/

/-- An anchored group of sound charts, whose window is finite, is together with its trail. -/
theorem start_coherent {g : Group} (hopen : g.suppressed = false)
    (hplain : ∀ c ∈ g.charts, c.Plain) (hsound : ∀ c ∈ g.charts, c.Sound)
    (hid : g.id.WellFormed) {w : Window} (hw : g.shared? = some w) (hfinite : w.IsFinite) :
    (start g).Coherent g := by
  have hanchor : (g.anchor Trail.start).1 = Trail.start.replace (Entry.toState ⟨g.id, w⟩) := by
    unfold Group.anchor
    rw [hw]
    rfl
  obtain ⟨c, rest, a, hfirst, ha⟩ := Group.exists_first hw
  have hordered : w.Ordered := by
    have hshared : c.visible? = some w := by
      unfold Group.shared? at hw
      rw [hfirst] at hw
      exact hw
    unfold Chart.visible? at hshared
    rw [ha] at hshared
    cases hshared
    exact ((hsound c (by rw [hfirst]; exact List.mem_cons_self)).axis a ha).visible
  have hentry : Entry.WellFormed ⟨g.id, w⟩ := ⟨hid, hordered.wellFormed hfinite.1 hfinite.2⟩
  refine ⟨rfl, hopen, hplain, hsound, ?_, ?_, ?_⟩
  · intro state hstate
    change state ∈ (g.anchor Trail.start).1.states at hstate
    rw [hanchor] at hstate
    exact ⟨⟨g.id, w⟩, hentry, rfl, List.mem_singleton.1 hstate⟩
  · refine ⟨⟨g.id, w⟩, hentry, ?_, rfl, ⟨w, hw, .refl hordered⟩, ?_⟩
    · show (g.anchor Trail.start).1.current = _
      rw [hanchor]
      exact Trail.replace_current _ _
    · rintro ⟨⟩
  · show g.stats.pushes = g.stats.pushes + (g.anchor Trail.start).1.pushes
    rw [hanchor]
    rfl

/-- History and charts stay together over whole runs of a group that was anchored on a fresh trail,
    as long as its name is not empty and every window that is recorded is finite. After any visits
    the current state of the trail is an entry of the group with the window that its first chart
    shows. Once a window was broadcast or restored, every chart with an axis shows it. The trail has
    as many pushes as the group has recorded windows since. -/
theorem run_coherent {g : Group} (hopen : g.suppressed = false)
    (hplain : ∀ c ∈ g.charts, c.Plain) (hsound : ∀ c ∈ g.charts, c.Sound)
    (hid : g.id.WellFormed) (hanchor : (g.anchor Trail.start).2 = .ok true)
    {visits : List Visit} (hordered : ∀ v ∈ visits, v.Ordered)
    (hfinite : ∀ a ∈ (g.writeOf .anchor).toList ++ (start g).writes visits,
      a.entry.window.IsFinite) :
    ∃ r, Entry.ofState? ((start g).run visits).trail.current = some ⟨g.id, r⟩ ∧
      (∃ w, ((start g).run visits).group.shared? = some w ∧ w.Same r) ∧
      (((start g).run visits).joined = true →
        ∀ c ∈ ((start g).run visits).group.charts, ∀ v ∈ c.visible?, v.Same r) ∧
      ((start g).run visits).group.stats.pushes =
        g.stats.pushes + ((start g).run visits).trail.pushes := by
  cases hw : g.shared? with
  | none =>
    unfold Group.anchor at hanchor
    rw [hw] at hanchor
    cases hanchor
  | some w =>
    have hwrite : g.writeOf .anchor = some (.replace ⟨g.id, w⟩) := by
      unfold Group.writeOf
      rw [hw]
      rfl
    have hfirst : w.IsFinite := by
      refine hfinite (.replace ⟨g.id, w⟩) (List.mem_append_left _ ?_)
      rw [hwrite]
      exact List.mem_singleton.2 rfl
    have hrun := run_keeps hid (start_coherent hopen hplain hsound hid hw hfirst) hordered
      fun a ha => hfinite a (List.mem_append_right _ ha)
    obtain ⟨e, he, hcurrent, hgroup, hshown, hjoined⟩ := hrun.shows
    refine ⟨e.window, ?_, hshown, hjoined, hrun.pushes⟩
    rw [hcurrent, Entry.ofState?_toState he, ← hrun.id, ← hgroup]

/-- A choice, two that are refused, a preset, and steps along the trail to both of its ends. -/
def backAndForth : List Visit :=
  [.back, .userSet 1 ⟨2, 4⟩, .userSet 7 ⟨2, 4⟩, .userSet 2 ⟨2, 4⟩, .back, .forward, .forward,
    .select 3 .all, .back, .back]

theorem run_coherent_back_and_forth :
    ∃ r, Entry.ofState? ((start Group.mixedGroup).run backAndForth).trail.current =
        some ⟨⟨"load"⟩, r⟩ ∧
      ∀ c ∈ ((start Group.mixedGroup).run backAndForth).group.charts, ∀ v ∈ c.visible?,
        v.Same r := by
  have hplain : ∀ c ∈ Group.mixedGroup.charts, c.Plain := by decide +kernel
  have hsound : ∀ c ∈ Group.mixedGroup.charts, c.Sound := by decide +kernel
  have hordered : ∀ v ∈ backAndForth, v.Ordered := by decide +kernel
  have hfinite : ∀ a ∈ (Group.mixedGroup.writeOf .anchor).toList ++
      (start Group.mixedGroup).writes backAndForth, a.entry.window.IsFinite := by decide +kernel
  obtain ⟨r, hcurrent, -, hjoined, -⟩ :=
    run_coherent rfl hplain hsound (by decide +kernel) rfl hordered hfinite
  exact ⟨r, hcurrent, hjoined (by decide +kernel)⟩

/-- A chart that was just made of two samples, in a group whose name is empty. -/
def unnamed : Group :=
  ⟨⟨""⟩, [⟨.standard, some ⟨⟨0, 100⟩, ⟨0, 100⟩⟩, [⟨"cpu", .line, none, #[⟨0, 1⟩, ⟨100, 1⟩]⟩], 0,
    .blank [], .ofRefused [], true⟩], false, 1, .none⟩

/-- A choice, and the step back from it. -/
def thereAndBack : List Visit := [.userSet 0 ⟨20, 40⟩, .back]

/-- The name has to be there. The text of the empty string is read as a name, and a group with that
    name is made and anchored; but its states cannot be read back. There is no current entry from
    the anchor on, and the step back from a choice leaves what was chosen on the chart. -/
theorem run_forgets_unnamed :
    (Tree.parse? "\"\"").bind GroupId.ofTree? = some unnamed.id ∧
      (∀ c ∈ unnamed.charts,
        (Chart.make? c.settings c.series c.canvas c.moves c.limitsZoom).toOption = some c) ∧
      Group.make? unnamed.id unnamed.charts = .ok unnamed ∧
      (∀ c ∈ unnamed.charts, c.Plain) ∧ (∀ c ∈ unnamed.charts, c.Sound) ∧
      (unnamed.anchor Trail.start).2 = .ok true ∧ (∀ v ∈ thereAndBack, v.Ordered) ∧
      (∀ a ∈ (unnamed.writeOf .anchor).toList ++ (start unnamed).writes thereAndBack,
        a.entry.window.IsFinite) ∧
      Entry.ofState? (start unnamed).trail.current = none ∧
      Entry.ofState? ((start unnamed).run thereAndBack).trail.current = none ∧
      ((start unnamed).run thereAndBack).trail.CanGoForward ∧
      ((start unnamed).run thereAndBack).group.shared? = some ⟨20, 40⟩ := by
  refine ⟨?_, ?_, rfl, ?_, ?_, rfl, ?_, ?_, ?_, ?_, ?_, ?_⟩ <;> decide +kernel

end Session

end LinkedCharts
