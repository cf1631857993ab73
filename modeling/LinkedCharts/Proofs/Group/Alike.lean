import LinkedCharts.Proofs.Group.Run

/-!
# A group over different histories

A group writes to a history and never reads it. All that comes back is whether a write was refused.
So over two histories that refuse the same writes a group does the same and answers the same,
whatever else the histories hold.

Results:
* `Alike`: histories that refuse the same writes, now and after every write.
* `Group.act_alike`, `Group.run_alike`: a group does the same over both of them.
* `Journal.accepts_alike`: a journal that refuses nothing is like any trail.
-/

namespace LinkedCharts

variable {V H K : Type} [View V] [Recorder H] [Recorder K]

/-- Related histories answer a write alike, and are related after it. -/
structure Alike (R : H → K → Prop) : Prop where
  push : ∀ {h k}, R h k → ∀ e, (Recorder.push h e).2 = (Recorder.push k e).2 ∧
    R (Recorder.push h e).1 (Recorder.push k e).1
  replace : ∀ {h k}, R h k → ∀ e, (Recorder.replace h e).2 = (Recorder.replace k e).2 ∧
    R (Recorder.replace h e).1 (Recorder.replace k e).1

namespace Group

/-- Two steps left the same group and gave the same answer, and their histories are related. -/
structure Agree {α : Type} (R : H → K → Prop) (x : Group V × H × Except Fault α)
    (y : Group V × K × Except Fault α) : Prop where
  group : x.1 = y.1
  answer : x.2.2 = y.2.2
  histories : R x.2.1 y.2.1

variable {R : H → K → Prop} {h : H} {k : K}

omit [View V] [Recorder H] [Recorder K] in
theorem Agree.map {α β : Type} {x : Group V × H × Except Fault α} {y : Group V × K × Except Fault α}
    (hxy : Agree R x y) (f : α → β) :
    Agree R (x.1, x.2.1, x.2.2.map f) (y.1, y.2.1, y.2.2.map f) :=
  ⟨hxy.group, congrArg (·.map f) hxy.answer, hxy.histories⟩

theorem notify_alike (hR : Alike R) (hhk : R h k) (g : Group V) (origin : Nat) (w : Window) :
    Agree R (g.notify h origin w) (g.notify k origin w) := by
  rw [notify_eq g h, notify_eq g k]
  split
  · exact ⟨rfl, rfl, hhk⟩
  · split
    · exact ⟨rfl, rfl, hhk⟩
    · obtain ⟨hanswer, hafter⟩ := hR.push hhk ⟨g.id, w⟩
      rcases hpush : Recorder.push h ⟨g.id, w⟩ with ⟨h', answer⟩
      rcases hpush' : Recorder.push k ⟨g.id, w⟩ with ⟨k', answer'⟩
      rw [hpush, hpush'] at hanswer hafter
      cases hanswer
      cases answer with
      | error f => exact ⟨rfl, rfl, hafter⟩
      | ok done =>
        dsimp only
        rw [spread_eq, spread_eq]
        exact ⟨rfl, rfl, hafter⟩

theorem userSet_alike (hR : Alike R) (hhk : R h k) (g : Group V) (origin : Nat) (w : Window) :
    Agree R (g.userSet h origin w) (g.userSet k origin w) := by
  unfold userSet
  dsimp only
  split
  · exact ⟨rfl, rfl, hhk⟩
  · exact notify_alike hR hhk _ _ _

theorem select_alike (hR : Alike R) (hhk : R h k) (g : Group V) (origin : Nat) (p : Preset) :
    Agree R (g.select h origin p) (g.select k origin p) := by
  unfold select
  split
  · exact ⟨rfl, rfl, hhk⟩
  · split
    · exact ⟨rfl, rfl, hhk⟩
    · exact userSet_alike hR hhk _ _ _

theorem anchor_alike (hR : Alike R) (hhk : R h k) (g : Group V) :
    (g.anchor h).2 = (g.anchor k).2 ∧ R (g.anchor h).1 (g.anchor k).1 := by
  unfold anchor
  split
  · exact ⟨rfl, hhk⟩
  · rename_i w _
    obtain ⟨hanswer, hafter⟩ := hR.replace hhk ⟨g.id, w⟩
    rcases hreplace : Recorder.replace h ⟨g.id, w⟩ with ⟨h', answer⟩
    rcases hreplace' : Recorder.replace k ⟨g.id, w⟩ with ⟨k', answer'⟩
    rw [hreplace, hreplace'] at hanswer hafter
    cases hanswer
    cases answer with
    | error f => exact ⟨rfl, hafter⟩
    | ok done => exact ⟨rfl, hafter⟩

/-- One call over related histories. -/
theorem act_alike (hR : Alike R) (hhk : R h k) (g : Group V) (a : Action) :
    Agree R (g.act h a) (g.act k a) := by
  cases a with
  | anchor =>
    obtain ⟨hanswer, hafter⟩ := anchor_alike hR hhk g
    exact ⟨rfl, congrArg (·.map CallResult.anchored) hanswer, hafter⟩
  | notify origin w => exact (notify_alike hR hhk g origin w).map CallResult.outcome
  | userSet origin w => exact (userSet_alike hR hhk g origin w).map CallResult.outcome
  | select origin p => exact (select_alike hR hhk g origin p).map CallResult.outcome
  | navigated _ | redraw | apply _ _ | append _ _ _ | moveTo _ _ => exact ⟨rfl, rfl, hhk⟩

theorem run_append (g : Group V) (h : H) (before after : List Action) :
    g.run h (before ++ after) =
      { (g.run h before).group.run (g.run h before).history after with
        results := (g.run h before).results ++
          ((g.run h before).group.run (g.run h before).history after).results } := by
  induction before generalizing g h with
  | nil => rfl
  | cons a rest ih =>
    rw [List.cons_append, run_cons, run_cons, ih]
    rfl

/-- A run of calls over related histories. -/
theorem run_alike (hR : Alike R) (hhk : R h k) (g : Group V) (calls : List Action) :
    (g.run h calls).group = (g.run k calls).group ∧
      (g.run h calls).results = (g.run k calls).results ∧
      R (g.run h calls).history (g.run k calls).history := by
  induction calls generalizing g h k with
  | nil => exact ⟨rfl, rfl, hhk⟩
  | cons a rest ih =>
    obtain ⟨hgroup, hanswer, hafter⟩ := act_alike hR hhk g a
    obtain ⟨hgroups, hresults, hhistories⟩ := ih hafter (g.act h a).1
    rw [run_cons, run_cons]
    dsimp only
    rw [hgroup] at hgroups hresults hhistories
    rw [hgroup, hanswer]
    exact ⟨hgroups, congrArg _ hresults, hhistories⟩

end Group

namespace Journal

/-- The journal refuses no writes. -/
def Accepts (j : Journal) : Prop := j.writes.refused = []

instance (j : Journal) : Decidable j.Accepts := inferInstanceAs (Decidable (_ = _))

theorem write_of_accepts {j : Journal} (hj : j.Accepts) (change : Trail → Trail) :
    j.write change = (⟨change j.trail, j.writes.next⟩, .ok ()) := by
  unfold write
  dsimp only
  rw [if_neg (Calls.not_isRefused_next hj)]

/-- To a group that writes to it, a journal that refuses nothing is like any trail. -/
theorem accepts_alike : Alike fun (j : Journal) (_ : Trail) => j.Accepts where
  push := by
    intro j t hj e
    show (j.write _).2 = .ok () ∧ (j.write _).1.Accepts
    rw [write_of_accepts hj]
    exact ⟨rfl, hj⟩
  replace := by
    intro j t hj e
    show (j.write _).2 = .ok () ∧ (j.write _).1.Accepts
    rw [write_of_accepts hj]
    exact ⟨rfl, hj⟩

end Journal

end LinkedCharts
