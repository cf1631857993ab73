import LinkedCharts.Proofs.Board.Run
import LinkedCharts.Proofs.Group.Broadcast
import LinkedCharts.Proofs.History.Trail

/-!
# Where a history state goes

A board offers a history state to every group, and returns the last one that took it. A group takes
the entries that bear its name, whatever name it is stored under; that both names are the same, and
that no name is taken twice, makes the last one the only one. In groups whose charts refuse nothing
the offer itself never fails, also where some charts have no axis.

Results:
* `Board.deliver_eq`: a state offered to a list of groups.
* `Board.Delivered`, `Board.dispatch_of_owner`: an entry moves the charts of its own group and
  nothing else.
* `Board.dispatch_of_unclaimed`: all other states do nothing.
* `Board.Stepped`, `Board.navigate_stepped`: what a step through the history comes to.
* `Board.run_routes`: all of this in every state of a board.
-/

namespace LinkedCharts

open Json

/-- The group after an entry with a window was restored: all charts with an axis show the window,
    and the counters count one restoration and one echo for each chart that showed something
    else. -/
structure Group.Restored (w : Window) (before after : Group) : Prop where
  charts : List.Forall₂ (Chart.ShowsInstead w) before.charts after.charts
  stats : after.stats = { before.stats with
    navigations := before.stats.navigations + 1
    echoes := before.stats.echoes + before.charts.countP fun c => c.Elsewhere w }
  id : after.id = before.id
  minimum : after.minimumSpan = before.minimumSpan
  suppressed : after.suppressed = before.suppressed

theorem Group.navigated_restored {g : Group} (hplain : ∀ c ∈ g.charts, c.Plain) {state : Value}
    {e : Entry} (he : Entry.ofState? state = some e) (hid : e.group = g.id) :
    g.Restored e.window (g.navigated state).1 := by
  have hordered := (Entry.ofState?_wellFormed he).window.ordered
  rw [navigated_of_plain hplain he hid]
  refine ⟨?_, rfl, rfl, rfl, rfl⟩
  rw [List.forall₂_map_right_iff, List.forall₂_same]
  exact fun c _ => Chart.shown_showsInstead hordered c

namespace Board

variable {b : Board} {state : Value}

/-! ## Delivery -/

/-- The last claimant of a list is the only one. -/
theorem filter_mem_cons_or {α : Type} [DecidableEq α] (owner found : Option α) (k : α)
    (rest : List α) :
    (owner.filter (· ∈ rest)).or (if owner = some k then some k else found) =
      (owner.filter (· ∈ k :: rest)).or found := by
  cases owner with
  | none => rfl
  | some o =>
    rw [Option.filter_some, Option.filter_some]
    by_cases hhead : o = k
    · subst hhead
      by_cases hmem : o ∈ rest
      · simp [hmem]
      · simp [hmem]
    · simp [hhead]

/-- The name of the group that a state belongs to, if it holds an entry. -/
def owner? (state : Value) : Option GroupId := (Entry.ofState? state).map Entry.group

/-- A plain group takes the states that belong to it, and no others. -/
theorem navigated_answer {g : Group} (hplain : ∀ c ∈ g.charts, c.Plain) (state : Value) :
    (g.navigated state).2 = .ok (decide (owner? state = some g.id)) := by
  by_cases hown : ∃ e, Entry.ofState? state = some e ∧ e.group = g.id
  · obtain ⟨e, he, hid⟩ := hown
    rw [Group.navigated_of_plain hplain he hid, owner?, he, Option.map_some, hid]
    simp
  · have hnot : owner? state ≠ some g.id := by
      intro h
      obtain ⟨e, he, hid⟩ := Option.map_eq_some_iff.1 h
      exact hown ⟨e, he, hid⟩
    rw [Group.navigated_of_foreign fun e he hid => hown ⟨e, he, hid⟩]
    simp [hnot]

/-- The group behind the lock after a state was offered to it. -/
def offered (state : Value) (s : Shared) : Shared := { s with group := (s.group.navigated state).1 }

/-- Every group hears of the state, and the answer is the group that it belongs to, if that is
    there. -/
theorem deliver_eq (state : Value) (found : Option GroupId) {groups : List (GroupId × Shared)}
    (hown : ∀ p ∈ groups, p.2.group.id = p.1) (hsound : ∀ p ∈ groups, p.2.poisoned = false)
    (hplain : ∀ p ∈ groups, ∀ c ∈ p.2.group.charts, c.Plain) :
    deliver state found groups =
      (groups.map fun p => (p.1, offered state p.2),
        .ok (((owner? state).filter (· ∈ groups.map Prod.fst)).or found)) := by
  induction groups generalizing found with
  | nil =>
    have hnone : (owner? state).filter (· ∈ ([] : List GroupId)) = none := by simp
    rw [deliver, List.map_nil, List.map_nil, hnone, Option.none_or]
  | cons p rest ih =>
    obtain ⟨id, s⟩ := p
    have hid : s.group.id = id := hown _ List.mem_cons_self
    have hopen : s.poisoned = false := hsound _ List.mem_cons_self
    have hanswer := navigated_answer (hplain _ List.mem_cons_self) state
    have huse : s.use (·.navigated state) =
        (offered state s, .ok (decide (owner? state = some id))) := by
      simp only [Shared.use, hopen, Bool.false_eq_true, if_false, hanswer, hid, offered]
    have hrest := fun found => ih found (fun q hq => hown q (List.mem_cons_of_mem _ hq))
      (fun q hq => hsound q (List.mem_cons_of_mem _ hq))
      (fun q hq => hplain q (List.mem_cons_of_mem _ hq))
    unfold deliver
    rw [huse]
    simp only [hrest, List.map_cons, decide_eq_true_eq, filter_mem_cons_or]

/-- A state of another group changes nothing. -/
theorem offered_of_foreign {s : Shared} (h : owner? state ≠ some s.group.id) :
    offered state s = s := by
  unfold offered
  rw [Group.navigated_of_foreign]
  intro e he hid
  exact h (by rw [owner?, he, Option.map_some, hid])

theorem dispatch_eq (hb : b.Named) (hp : b.AllPlain) (state : Value) :
    b.dispatch state =
      ({ b with groups := b.groups.map fun p => (p.1, offered state p.2) },
        .ok ((owner? state).filter (· ∈ b.names))) := by
  unfold dispatch
  rw [deliver_eq state none hb.own hb.sound hp, Option.or_none]
  rfl

/-- The answer names the group of the state's entry, if that is on the board. -/
theorem answer_eq_some_iff {id : GroupId} :
    (owner? state).filter (· ∈ b.names) = some id ↔
      ∃ e, Entry.ofState? state = some e ∧ e.group = id ∧ id ∈ b.names := by
  rw [Option.filter_eq_some_iff, decide_eq_true_eq, owner?, Option.map_eq_some_iff]
  constructor
  · rintro ⟨⟨e, he, hid⟩, hmem⟩
    exact ⟨e, he, hid, hmem⟩
  · rintro ⟨e, he, hid, hmem⟩
    exact ⟨⟨e, he, hid⟩, hmem⟩

/-- A state that belongs to no group on the board does nothing. -/
theorem dispatch_of_unclaimed (hb : b.Named) (hp : b.AllPlain)
    (h : ∀ e, Entry.ofState? state = some e → e.group ∉ b.names) :
    b.dispatch state = (b, .ok none) := by
  have hnone : (owner? state).filter (· ∈ b.names) = none := by
    rw [Option.eq_none_iff_forall_ne_some]
    intro id hid
    obtain ⟨e, he, rfl, hmem⟩ := answer_eq_some_iff.1 hid
    exact h e he hmem
  have hsame : (b.groups.map fun p => (p.1, offered state p.2)) = b.groups := by
    refine (List.map_congr_left fun p hmem => ?_).trans (List.map_id _)
    have hforeign : owner? state ≠ some p.2.group.id := by
      intro howner
      obtain ⟨e, he, hid⟩ := Option.map_eq_some_iff.1 howner
      refine h e he ?_
      rw [hid, hb.own p hmem]
      exact List.mem_map_of_mem hmem
    exact congrArg (p.1, ·) (offered_of_foreign hforeign)
  rw [dispatch_eq hb hp, hnone, hsame]

/-- An entry was delivered: its group shows its window, and nothing else has changed. -/
structure Delivered (b : Board) (e : Entry) (after : Board) : Prop where
  journal : after.journal = b.journal
  names : after.names = b.names
  others : ∀ id, id ≠ e.group → after.groups.lookup id = b.groups.lookup id
  own : ∃ s t, b.groups.lookup e.group = some s ∧ after.groups.lookup e.group = some t ∧
    t.poisoned = s.poisoned ∧ s.group.Restored e.window t.group

theorem dispatch_delivered (hb : b.Named) (hp : b.AllPlain) {e : Entry}
    (he : Entry.ofState? state = some e) (hmem : e.group ∈ b.names) :
    b.Delivered e (b.dispatch state).1 := by
  rw [dispatch_eq hb hp]
  refine ⟨rfl, ?_, ?_, ?_⟩
  · unfold names
    rw [List.map_map]
    rfl
  · intro id hne
    dsimp only
    rw [lookup_map]
    cases hs : b.groups.lookup id with
    | none => rfl
    | some s =>
      have hid : s.group.id = id := hb.own _ (mem_of_lookup hs)
      refine congrArg some (offered_of_foreign ?_)
      rw [owner?, he, Option.map_some, hid]
      exact fun h => hne (Option.some.inj h).symm
  · obtain ⟨s, hs⟩ := Option.ne_none_iff_exists'.1 fun hnone =>
      lookup_eq_none_iff_not_mem.1 hnone hmem
    have hpair := mem_of_lookup hs
    refine ⟨s, offered state s, hs, ?_, rfl, ?_⟩
    · dsimp only
      rw [lookup_map, hs, Option.map_some]
    · exact Group.navigated_restored (hp _ hpair) he (hb.own _ hpair).symm

/-! ## Steps through the history -/

/-- What a move along the trail, which is possible or not, comes to. Where the trail ends nothing
    happens. Otherwise the entry that has become current is delivered to its group, if there is
    one. -/
structure Stepped (b : Board) (move : Trail → Trail × Option Value) (possible : Prop)
    (result : Board × Except Fault Navigation) : Prop where
  trail : result.1.journal.trail = (move b.journal.trail).1
  atEnd : result.2 = .ok .atEnd ↔ ¬ possible
  stays : ¬ possible → result.1 = b
  applied : ∀ id, result.2 = .ok (.applied id) ↔ possible ∧
    ∃ e, Entry.ofState? result.1.journal.trail.current = some e ∧ e.group = id ∧ id ∈ b.names
  delivered : possible → ∀ e, Entry.ofState? result.1.journal.trail.current = some e →
    e.group ∈ b.names → Delivered { b with journal := result.1.journal } e result.1
  unclaimed : result.2 = .ok .unclaimed ↔ possible ∧
    ∀ e, Entry.ofState? result.1.journal.trail.current = some e → e.group ∉ b.names
  kept : result.2 = .ok .unclaimed → result.1.groups = b.groups

/-- What a step is told as, by the group that took the state reached. -/
def routed : Option GroupId → Navigation
  | some id => .applied id
  | none => .unclaimed

/-- A step whose state is reached: the cursor has moved, and the state is delivered. -/
def reach (b : Board) (j : Journal) : Board × Except Fault Navigation :=
  let delivered := ({ b with journal := j } : Board).dispatch j.trail.current
  (delivered.1, delivered.2.map routed)

theorem navigate_of_end {move : Trail → Trail × Option Value}
    (hmoved : b.journal.trail.Moved (move b.journal.trail))
    (hend : (move b.journal.trail).2 = none) : b.navigate move = (b, .ok .atEnd) := by
  have hstays := hmoved.stays hend
  unfold navigate
  rcases hmove : move b.journal.trail with ⟨t, _ | state⟩
  · rw [hmove] at hstays
    rw [show t = b.journal.trail from hstays]
  · rw [hmove] at hend
    cases hend

theorem navigate_of_reached {move : Trail → Trail × Option Value}
    (hmoved : b.journal.trail.Moved (move b.journal.trail))
    (hreached : (move b.journal.trail).2 ≠ none) :
    ∃ j : Journal, j.trail = (move b.journal.trail).1 ∧ b.navigate move = b.reach j := by
  rcases hmove : move b.journal.trail with ⟨t, _ | state⟩
  · exact absurd (by rw [hmove]) hreached
  · have hcurrent := hmoved.reached state (by rw [hmove]; rfl)
    rw [hmove] at hcurrent
    refine ⟨{ b.journal with trail := t }, rfl, ?_⟩
    unfold navigate reach
    rw [hmove]
    dsimp only
    rw [show t.current = state from hcurrent]
    rfl

/-- The state reached is an entry of a group on the board. -/
theorem reach_of_owner (hb : b.Named) (hp : b.AllPlain) {j : Journal} {e : Entry}
    (he : Entry.ofState? j.trail.current = some e) (hmem : e.group ∈ b.names) :
    (b.reach j).2 = .ok (.applied e.group) ∧
      Delivered { b with journal := j } e (b.reach j).1 := by
  have hnamed : ({ b with journal := j } : Board).Named := ⟨hb.own, hb.sound, hb.nodup⟩
  have hplain : ({ b with journal := j } : Board).AllPlain := hp
  refine ⟨?_, dispatch_delivered hnamed hplain he hmem⟩
  have hanswer : (({ b with journal := j } : Board).dispatch j.trail.current).2
      = .ok (some e.group) := by
    rw [dispatch_eq hnamed hplain]
    exact congrArg _ (answer_eq_some_iff.2 ⟨e, he, rfl, hmem⟩)
  unfold reach
  dsimp only
  rw [hanswer]
  rfl

/-- The state reached is nothing to the groups on the board. -/
theorem reach_of_unclaimed (hb : b.Named) (hp : b.AllPlain) {j : Journal}
    (h : ∀ e, Entry.ofState? j.trail.current = some e → e.group ∉ b.names) :
    b.reach j = ({ b with journal := j }, .ok .unclaimed) := by
  have hnamed : ({ b with journal := j } : Board).Named := ⟨hb.own, hb.sound, hb.nodup⟩
  have hplain : ({ b with journal := j } : Board).AllPlain := hp
  unfold reach
  rw [dispatch_of_unclaimed hnamed hplain h]
  rfl

theorem reach_stepped (hb : b.Named) (hp : b.AllPlain) {move : Trail → Trail × Option Value}
    {possible : Prop} (hpos : possible) {j : Journal}
    (htrail : j.trail = (move b.journal.trail).1) : b.Stepped move possible (b.reach j) := by
  by_cases howned : ∃ e, Entry.ofState? j.trail.current = some e ∧ e.group ∈ b.names
  · obtain ⟨e, he, hmem⟩ := howned
    obtain ⟨hanswer, hdelivered⟩ := reach_of_owner hb hp he hmem
    refine ⟨htrail, ?_, fun hn => absurd hpos hn, ?_, ?_, ?_, ?_⟩
    · rw [hanswer]
      exact ⟨nofun, fun hn => absurd hpos hn⟩
    · intro id
      rw [hanswer]
      constructor
      · rintro ⟨⟩
        exact ⟨hpos, e, he, rfl, hmem⟩
      · rintro ⟨-, e', he', rfl, -⟩
        cases he.symm.trans he'
        rfl
    · intro _ e' he' _
      cases he.symm.trans he'
      exact hdelivered
    · rw [hanswer]
      exact ⟨nofun, fun h => absurd hmem (h.2 e he)⟩
    · rw [hanswer]
      exact nofun
  · have hnone : ∀ e, Entry.ofState? j.trail.current = some e → e.group ∉ b.names :=
      fun e he hmem => howned ⟨e, he, hmem⟩
    rw [reach_of_unclaimed hb hp hnone]
    refine ⟨htrail, ⟨nofun, fun hn => absurd hpos hn⟩, fun hn => absurd hpos hn, ?_,
      fun _ e he hmem => absurd hmem (hnone e he), ⟨fun _ => ⟨hpos, hnone⟩, fun _ => rfl⟩,
      fun _ => rfl⟩
    intro id
    refine ⟨nofun, ?_⟩
    rintro ⟨-, e, he, rfl, hmem⟩
    exact absurd hmem (hnone e he)

theorem navigate_stepped (hb : b.Named) (hp : b.AllPlain) {move : Trail → Trail × Option Value}
    (hmoved : b.journal.trail.Moved (move b.journal.trail)) {possible : Prop}
    (hpossible : (move b.journal.trail).2 = none ↔ ¬ possible) :
    b.Stepped move possible (b.navigate move) := by
  by_cases hend : (move b.journal.trail).2 = none
  · have hnot : ¬ possible := hpossible.1 hend
    rw [navigate_of_end hmoved hend]
    refine ⟨(hmoved.stays hend).symm, ⟨fun _ => hnot, fun _ => rfl⟩, fun _ => rfl, ?_, ?_, ?_,
      nofun⟩
    · exact fun id => ⟨nofun, fun h => absurd h.1 hnot⟩
    · exact fun h => absurd h hnot
    · exact ⟨nofun, fun h => absurd h.1 hnot⟩
  · have hpos : possible := by
      by_contra hn
      exact hend (hpossible.2 hn)
    obtain ⟨j, htrail, hnavigate⟩ := navigate_of_reached hmoved hend
    rw [hnavigate]
    exact reach_stepped hb hp hpos htrail

/-! ## Every state of a board -/

/-- Where history states go, in every state of a board to which groups of plain charts were added.
    Groups are stored under their own names, and no name is taken twice. A state that is delivered
    goes to the group of its entry, if there is one; that group shows the window and counts a
    restoration, and nothing else changes. A step through the history does this with the entry that
    it makes current, and says so; at the end of the trail it does nothing. -/
theorem run_routes (refused : List Nat) {calls : List Call} (hcalls : ∀ c ∈ calls, c.AddsPlain)
    {b : Board} (hb : b = (Board.empty (Journal.start refused)).run calls) :
    (∀ p ∈ b.groups, p.2.group.id = p.1) ∧ b.names.Nodup ∧
    (∀ state, ∃ answer, (b.dispatch state).2 = .ok answer ∧
      (∀ id, answer = some id ↔
        ∃ e, Entry.ofState? state = some e ∧ e.group = id ∧ id ∈ b.names) ∧
      (∀ e, Entry.ofState? state = some e → e.group ∈ b.names →
        b.Delivered e (b.dispatch state).1) ∧
      (answer = none → (b.dispatch state).1 = b)) ∧
    b.Stepped Trail.back b.journal.trail.CanGoBack b.back ∧
    b.Stepped Trail.forward b.journal.trail.CanGoForward b.forward := by
  have hnamed : b.Named := hb ▸ run_named (Journal.start refused) calls
  have hplain : b.AllPlain := hb ▸ run_plain (Journal.start refused) hcalls
  refine ⟨hnamed.own, hnamed.nodup, ?_, ?_, ?_⟩
  · intro state
    refine ⟨(owner? state).filter (· ∈ b.names), by rw [dispatch_eq hnamed hplain],
      fun id => answer_eq_some_iff,
      fun e he hmem => dispatch_delivered hnamed hplain he hmem, ?_⟩
    intro hnone
    rw [dispatch_of_unclaimed hnamed hplain]
    intro e he hmem
    have hsome := answer_eq_some_iff.2 ⟨e, he, rfl, hmem⟩
    rw [hnone] at hsome
    cases hsome
  · exact navigate_stepped hnamed hplain b.journal.trail.back_spec Trail.back_eq_none_iff
  · exact navigate_stepped hnamed hplain b.journal.trail.forward_spec Trail.forward_eq_none_iff

/-- Two groups of charts with and without an axis, a window that is chosen, and a step back. -/
def mixedCalls : List Call :=
  [.add Group.mixedGroup, .add { Group.mixedGroup with id := ⟨"cpu"⟩ },
    .userSet ⟨"cpu"⟩ 1 ⟨2, 4⟩, .back]

theorem run_routes_mixed :
    (∀ c ∈ mixedCalls, c.AddsPlain) ∧
    (((Board.empty (Journal.start [])).run mixedCalls).dispatch
      (Entry.toState ⟨⟨"load"⟩, ⟨2, 8⟩⟩)).2 = .ok (some ⟨"load"⟩) ∧
    ((Board.empty (Journal.start [])).run mixedCalls).back.2 = .ok .atEnd ∧
    ((Board.empty (Journal.start [])).run mixedCalls).forward.2 = .ok (.applied ⟨"cpu"⟩) := by
  have hplain : ∀ c ∈ mixedCalls, c.AddsPlain := by decide +kernel
  obtain ⟨-, -, hdispatch, hback, hforward⟩ := run_routes [] hplain rfl
  obtain ⟨answer, hanswer, howner, -, -⟩ := hdispatch (Entry.toState ⟨⟨"load"⟩, ⟨2, 8⟩⟩)
  have he : (Entry.mk ⟨"load"⟩ ⟨2, 8⟩).WellFormed := ⟨by decide, by decide +kernel⟩
  refine ⟨hplain, ?_, hback.atEnd.2 (by decide +kernel), (hforward.applied ⟨"cpu"⟩).2 ?_⟩
  · rw [hanswer, (howner ⟨"load"⟩).2 ⟨_, Entry.ofState?_toState he, rfl, by decide +kernel⟩]
  · -- the window that was chosen, widened to the six milliseconds of the group
    exact ⟨by decide +kernel, ⟨⟨"cpu"⟩, ⟨0, 6⟩⟩, by decide +kernel, rfl, by decide +kernel⟩

end Board

end LinkedCharts
