import LinkedCharts.Proofs.Board.Isolation
import LinkedCharts.Proofs.Group.Rejection

/-!
# Calls to a board that are turned down

A call to a board is turned down if there is no group of its name, if the group turns it down, or if
a group is added whose name is taken or whose window the journal does not take. The groups, their
order, their charts and counters, and the trail are then as before. Steps through the history and
states that are delivered are never turned down.

Results:
* `Board.Untouched`: the board as it was.
* `Board.onGroup_rejected`, `Board.add_rejected`: one call.
* `Board.deliver_neverRejects`: states of the history are not turned down.
* `Board.rejected_calls_change_nothing`: all calls at all layers.
-/

namespace LinkedCharts

open Json

namespace Board

variable {b : Board}

/-! ## Boards as they were -/

/-- The board as it was: the same names in the same order, behind each the group as it was, and the
    same trail. -/
structure Untouched (before after : Board) : Prop where
  groups : List.Forall₂ (fun p q => q.1 = p.1 ∧ q.2.poisoned = p.2.poisoned ∧
    p.2.group.Untouched q.2.group) before.groups after.groups
  trail : after.journal.trail = before.journal.trail

theorem Untouched.of_groups {after : Board} (hgroups : after.groups = b.groups)
    (htrail : after.journal.trail = b.journal.trail) : b.Untouched after := by
  refine ⟨?_, htrail⟩
  rw [hgroups]
  exact List.forall₂_same.2 fun p _ => ⟨rfl, rfl, .refl p.2.group⟩

theorem Untouched.refl (b : Board) : b.Untouched b := .of_groups rfl rfl

/-- Another state of a group that is as it was. -/
theorem put_untouched (hb : b.names.Nodup) {id : GroupId} {s t : Shared}
    (hs : b.groups.lookup id = some s) (hpoisoned : t.poisoned = s.poisoned)
    (hgroup : s.group.Untouched t.group) : b.Untouched (b.put id t) := by
  refine ⟨?_, rfl⟩
  unfold put
  rw [List.forall₂_map_right_iff, List.forall₂_same]
  rintro ⟨k, old⟩ hmem
  refine ⟨rfl, ?_⟩
  dsimp only
  split
  · rename_i hk
    have hold := lookup_of_mem hb hmem
    rw [hk, hs] at hold
    cases hold
    exact ⟨hpoisoned, hgroup⟩
  · exact ⟨rfl, .refl old.group⟩

/-! ## Calls to one group -/

/-- What a group does with calls of a kind that it turns down, the board does with its groups. -/
theorem onGroup_rejected (hb : b.names.Nodup) {α : Type} {id : GroupId} (down : Group → Prop)
    {act : Group → Journal → Group × Journal × Except Fault α}
    (hact : ∀ g j, (∃ f, (act g j).2.2 = .error f ∧ f.IsRejection) ∨ down g →
      g.Untouched (act g j).1 ∧ (act g j).2.1 = j)
    (h : (∃ f, (b.onGroup id act).2 = .error f ∧ f.IsRejection) ∨
      ∃ s, b.groups.lookup id = some s ∧ down s.group) :
    b.Untouched (b.onGroup id act).1 := by
  cases hs : b.groups.lookup id with
  | none =>
    rw [onGroup_of_none hs]
    exact .refl b
  | some s =>
    cases hsound : s.poisoned with
    | true =>
      have hlocked : b.onGroup id act = (b.put id s, .error .poisoned) := by
        unfold onGroup group? Shared.useWith
        rw [hs]
        simp only [hsound, if_true]
        rfl
      rw [hlocked]
      exact put_untouched hb hs rfl (.refl s.group)
    | false =>
      rw [onGroup_of_lookup hs hsound] at h ⊢
      obtain ⟨hgroup, hjournal⟩ := hact s.group b.journal <| h.imp_right fun hdown => by
        obtain ⟨s', hs', hdown⟩ := hdown
        rwa [← Option.some.inj (hs.symm.trans hs')] at hdown
      dsimp only
      rw [hjournal]
      have hput := put_untouched (t := { s with group := (act s.group b.journal).1 }) hb hs rfl
        hgroup
      exact ⟨hput.groups, rfl⟩

/-! ## States of the history -/

theorem deliver_neverRejects (state : Value) (found : Option GroupId)
    (groups : List (GroupId × Shared)) : NeverRejects (deliver state found groups).2 := by
  induction groups generalizing found with
  | nil => exact neverRejects_ok found
  | cons p rest ih =>
    obtain ⟨id, s⟩ := p
    have huse : NeverRejects (s.use (·.navigated state)).2 := by
      unfold Shared.use
      split
      · exact neverRejects_error fun h => h
      · exact s.group.navigated_neverRejects state
    unfold deliver
    rcases hs : s.use (·.navigated state) with ⟨t, f | took⟩
    · rw [hs] at huse
      exact neverRejects_error (huse f rfl)
    · exact ih _

/-- A step through the history is not turned down. -/
theorem navigate_neverRejects (b : Board) (move : Trail → Trail × Option Value) :
    NeverRejects (b.navigate move).2 := by
  unfold navigate
  split
  · exact neverRejects_ok _
  · exact (deliver_neverRejects _ none b.groups).map _

/-! ## Groups that are added -/

/-- A group that is not added leaves the board as it was, whether its name is taken or the journal
    does not take its window. -/
theorem add_rejected {g : Group} {f : Fault} (hf : (b.add g).2 = .error f) :
    b.Untouched (b.add g).1 := by
  unfold add at hf ⊢
  cases hs : b.groups.lookup g.id with
  | some s => exact .refl b
  | none =>
    rw [hs] at hf
    dsimp only at hf ⊢
    rcases hanchor : g.anchor b.journal with ⟨j, f' | written⟩
    · refine .of_groups rfl ?_
      cases hw : g.shared? with
      | none =>
        rw [Group.anchor_of_none hw] at hanchor
        cases hanchor
      | some w =>
        have hrefused : (Recorder.replace b.journal ⟨g.id, w⟩) = (j, .error f') := by
          unfold Group.anchor at hanchor
          rw [hw] at hanchor
          dsimp only at hanchor
          split at hanchor
          · rename_i heq
            cases hanchor
            exact heq
          · cases hanchor
        exact Journal.trail_of_replace_refused hrefused
    · rw [hanchor] at hf
      cases hf

/-! ## All calls -/

/-- The call was turned down. -/
def Reply.Rejects : Reply → Prop
  | .answered _ answer => ∃ f, answer = .error f ∧ f.IsRejection
  | .dispatched _ answer => ∃ f, answer = .error f ∧ f.IsRejection

/-- The group that a step is addressed to turns it down. -/
def TurnsDown (b : Board) (x : Step) : Prop :=
  ∃ t s a, x.toward t = some a ∧ b.groups.lookup t = some s ∧ s.group.TurnsDown a

theorem step_rejected (hb : b.names.Nodup) {x : Step} (h : (b.step x).2.Rejects ∨ b.TurnsDown x) :
    b.Untouched (b.step x).1 := by
  -- a group that turns a call down does so under the name that the call is addressed to
  have haddressed : ∀ {id : GroupId} {a : Action},
      (∀ t, x.toward t = if id = t then some a else none) →
      b.TurnsDown x → ∃ s, b.groups.lookup id = some s ∧ s.group.TurnsDown a := by
    rintro id a htoward ⟨t, s, a', hx, hs, hdown⟩
    rw [htoward] at hx
    split at hx
    · rename_i hid
      cases hx
      exact ⟨s, hid ▸ hs, hdown⟩
    · cases hx
  cases x with
  | userSet id origin w =>
    exact onGroup_rejected hb (fun g => g.TurnsDown (.userSet origin w))
      (fun g j => Group.userSet_rejected)
      (h.imp Group.rejection_of_map (haddressed fun _ => rfl))
  | select id origin p =>
    exact onGroup_rejected hb (fun g => g.TurnsDown (.select origin p))
      (fun g j => Group.select_rejected)
      (h.imp Group.rejection_of_map (haddressed fun _ => rfl))
  | dispatch state =>
    rcases h with ⟨f, hf, hrejection⟩ | ⟨t, s, a, hx, -, hdown⟩
    · exact absurd hrejection (deliver_neverRejects state none b.groups f hf)
    · change (if owner? state = some t then some (Action.navigated state) else none) = some a at hx
      split at hx
      · cases hx
        exact hdown.elim
      · cases hx
  | handle id a =>
    exact onGroup_rejected hb (fun g => g.TurnsDown a) (fun g j => Group.act_rejected)
      (h.imp_right (haddressed fun _ => rfl))

/-- Calls that are turned down change nothing, at any layer. Of a board whose names are distinct, as
    those of all boards are that were made by adding groups: a call to a group that there is not, or
    that the group turns down; a group that is not added; and no step through the history is turned
    down. Of any group: a call that names a chart or a series that is not there, or a chart without
    an axis, or a window that the chart it is for does not accept. Samples that are not all finite
    make no other series, a time that is not finite makes no other axis, and a chart that cannot
    follow its data is as it was. -/
theorem rejected_calls_change_nothing (hb : b.names.Nodup) :
    (∀ x, (b.step x).2.Rejects ∨ b.TurnsDown x → b.Untouched (b.step x).1) ∧
    (∀ g f, (b.add g).2 = .error f → b.Untouched (b.add g).1) ∧
    NeverRejects b.back.2 ∧ NeverRejects b.forward.2 ∧
    (∀ (g : Group) (j : Journal) a,
      (∃ f, (g.act j a).2.2 = .error f ∧ f.IsRejection) ∨ g.TurnsDown a →
      g.Untouched (g.act j a).1 ∧ (g.act j a).2.1 = j) ∧
    (∀ (s : Series) xs, (∃ f, s.setSamples xs = .error f) ↔ ∃ x ∈ xs, ¬ x.IsFinite) ∧
    (∀ (a : Axis) time, (∃ f, a.growTo? time = .error f) ↔ ¬ time.isFinite) ∧
    (∀ (c : Chart) f, c.followData.2 = .error f → c.followData.1 = c) := by
  refine ⟨fun x => step_rejected hb, fun g f => add_rejected, b.navigate_neverRejects _,
    b.navigate_neverRejects _, fun g j a => Group.act_rejected,
    fun s xs => s.setSamples_fails_iff xs, fun a time => a.growTo?_fails_iff time,
    fun c f => Chart.followData_of_error⟩

/-- Calls for a chart and for a group that are not there, a group whose name is taken, and one whose
    window the journal does not take. -/
theorem rejected_calls_change_nothing_two_groups :
    twoGroups.Untouched (twoGroups.step loadStep).1 ∧
    twoGroups.Untouched (twoGroups.step (.select ⟨"disk"⟩ 0 .all)).1 ∧
    twoGroups.Untouched (twoGroups.add Group.mixedGroup).1 ∧
    (empty (Journal.start [1])).Untouched ((empty (Journal.start [1])).add Group.mixedGroup).1 := by
  obtain ⟨hstep, hadd, -⟩ := rejected_calls_change_nothing (b := twoGroups) (by decide +kernel)
  obtain ⟨-, hfirst, -⟩ := rejected_calls_change_nothing (b := empty (Journal.start [1])) .nil
  refine ⟨hstep _ (Or.inl ⟨.unknownChart "load" 4 4, by decide +kernel, trivial⟩),
    hstep _ (Or.inl ⟨.unknownGroup "disk", by decide +kernel, trivial⟩),
    hadd _ (.duplicateGroup "load") (by decide +kernel),
    hfirst _ (.invalidData (.writeRefused 1)) (by decide +kernel)⟩

end Board

end LinkedCharts
