import LinkedCharts.Proofs.Board.Run
import LinkedCharts.Proofs.History.Trail

/-!
# Whose entries a board overwrites

All groups of a board write to one trail. What a user chooses is written behind the current state,
and drops what lay ahead. A group that is added writes its window over the current state, whoever
owns that: this is how the base of a fresh history comes about, and it goes without looking. Nothing
else is ever overwritten, and everything written is an entry of the group that the call is about.

Results:
* `Board.Wrote`, `Board.act_wrote`: what each call does to the trail.
* `Board.run_keeps_states`: which states a call leaves alone, in every state of a board.
* `Board.add_overwrites`: a group that is added overwrites the entry of another one.
-/

namespace LinkedCharts

namespace Board

variable {b : Board}

/-- The group that a user chooses a window for. -/
def Call.chooser? : Call → Option GroupId
  | .userSet id _ _ | .select id _ _ => some id
  | .add _ | .back | .forward | .dispatch _ => none

/-- The group that a call adds, or that a user chooses a window for. -/
def Call.target? : Call → Option GroupId
  | .add g => some g.id
  | c => c.chooser?

/-- What a call may leave of the trail. -/
inductive Wrote (b : Board) (c : Call) : Trail → Prop
  /-- the states stay, wherever the cursor goes -/
  | nothing (t : Trail) (hstates : t.states = b.journal.trail.states) : Wrote b c t
  /-- the window of a group that is added, over the current state -/
  | base (g : Group) (w : Window) (hadd : c = .add g) (hnew : b.groups.lookup g.id = none)
      (hshown : g.shared? = some w) :
      Wrote b c (b.journal.trail.replace (Entry.toState ⟨g.id, w⟩))
  /-- a window that a user chooses, behind the current state -/
  | chosen (id : GroupId) (w : Window) (hchooser : c.chooser? = some id) :
      Wrote b c (b.journal.trail.push (Entry.toState ⟨id, w⟩))

/-- Moving along the trail writes nothing. -/
theorem navigate_states (b : Board) {move : Trail → Trail × Option Json.Value}
    (hmove : b.journal.trail.Moved (move b.journal.trail)) :
    (b.navigate move).1.journal.trail.states = b.journal.trail.states := by
  have hstates := hmove.states
  unfold navigate
  split
  · rename_i heq
    rw [heq] at hstates
    exact hstates
  · rename_i heq
    rw [heq] at hstates
    exact hstates

/-- A group that acts on a journal, and writes at most an entry of its own as a new state, does the
    same on a board. -/
theorem onGroup_wrote (hb : b.Named) {c : Call} {id : GroupId} (hc : c.chooser? = some id)
    {α : Type} {act : Group → Journal → Group × Journal × Except Fault α}
    (hact : ∀ g j, (act g j).2.1 = j ∨ ∃ v, (act g j).2.1 = (Recorder.push j ⟨g.id, v⟩).1) :
    Wrote b c (b.onGroup id act).1.journal.trail := by
  cases hs : b.groups.lookup id with
  | none =>
    rw [onGroup_of_none hs]
    exact .nothing _ rfl
  | some s =>
    have hmem := mem_of_lookup hs
    have hid : s.group.id = id := hb.own _ hmem
    rw [onGroup_of_lookup hs (hb.sound _ hmem)]
    show Wrote b c (act s.group b.journal).2.1.trail
    rcases hact s.group b.journal with heq | ⟨v, heq⟩
    · rw [heq]
      exact .nothing _ rfl
    · rw [heq, hid]
      rcases b.journal.write_trail fun t => t.push (Entry.toState ⟨id, v⟩) with hsame | hpushed
      · exact .nothing _ (congrArg Trail.states hsame)
      · rw [show (Recorder.push b.journal (Entry.mk id v)).1.trail = _ from hpushed]
        exact .chosen id v hc

theorem add_wrote (b : Board) (g : Group) : Wrote b (.add g) (b.add g).1.journal.trail := by
  cases hg : b.groups.lookup g.id with
  | some s =>
    have hadd : (b.add g).1 = b := by
      unfold add
      rw [hg]
    rw [hadd]
    exact .nothing _ rfl
  | none =>
    have hjournal : (b.add g).1.journal = (g.anchor b.journal).1 := by
      unfold add
      rw [hg]
      dsimp only
      split
      · rename_i heq
        rw [heq]
      · rename_i heq
        rw [heq]
    rw [hjournal]
    cases hw : g.shared? with
    | none =>
      rw [Group.anchor_of_none hw]
      exact .nothing _ rfl
    | some w =>
      rw [Group.anchor_history hw]
      rcases b.journal.write_trail fun t => t.replace (Entry.toState ⟨g.id, w⟩)
        with hsame | hreplaced
      · exact .nothing _ (congrArg Trail.states hsame)
      · rw [show (Recorder.replace b.journal (Entry.mk g.id w)).1.trail = _ from hreplaced]
        exact .base g w rfl hg hw

/-- What each call does to the trail. -/
theorem act_wrote (hb : b.Named) (c : Call) : Wrote b c (b.act c).journal.trail := by
  cases c with
  | add g => exact b.add_wrote g
  | userSet id origin w => exact onGroup_wrote hb rfl fun g j => g.userSet_history j origin w
  | select id origin p => exact onGroup_wrote hb rfl fun g j => g.select_history j origin p
  | back => exact .nothing _ (b.navigate_states b.journal.trail.back_spec)
  | forward => exact .nothing _ (b.navigate_states b.journal.trail.forward_spec)
  | dispatch state => exact .nothing _ rfl

/-- Which states of the trail a call leaves alone, in every state of a board. A state stays in its
    place, unless it lay ahead of the cursor and a user's choice was pushed, or it was the current
    one and a group was added whose first chart has an axis. What is written is an entry of the
    group that the call is about. -/
theorem run_keeps_states (refused : List Nat) (calls : List Call) (c : Call) (b : Board)
    (hb : b = (Board.empty (Journal.start refused)).run calls) :
    (∀ i state, b.journal.trail.states[i]? = some state →
      (b.act c).journal.trail.states[i]? = some state ∨
      (b.journal.trail.cursor < i ∧ ∃ id w, c.chooser? = some id ∧
        (b.act c).journal.trail = b.journal.trail.push (Entry.toState ⟨id, w⟩)) ∨
      (i = b.journal.trail.cursor ∧ ∃ g w, c = .add g ∧ b.groups.lookup g.id = none ∧
        g.shared? = some w ∧
        (b.act c).journal.trail = b.journal.trail.replace (Entry.toState ⟨g.id, w⟩))) ∧
    (∀ state ∈ (b.act c).journal.trail.states, state ∈ b.journal.trail.states ∨
      ∃ id w, c.target? = some id ∧ state = Entry.toState ⟨id, w⟩) := by
  have hwrote := act_wrote (hb ▸ run_named (Journal.start refused) calls) c
  generalize (b.act c).journal.trail = t at hwrote ⊢
  cases hwrote with
  | nothing t hstates =>
    rw [hstates]
    exact ⟨fun i state h => Or.inl h, fun state h => Or.inl h⟩
  | base g w hadd hnew hshown =>
    constructor
    · intro i state h
      by_cases hi : i = b.journal.trail.cursor
      · exact Or.inr (Or.inr ⟨hi, g, w, hadd, hnew, hshown, rfl⟩)
      · exact Or.inl ((Trail.replace_getElem? hi).trans h)
    · intro state h
      exact (Trail.mem_replace h).imp_right fun he => ⟨g.id, w, by rw [hadd]; rfl, he⟩
  | chosen id w hchooser =>
    constructor
    · intro i state h
      rcases Nat.lt_or_ge b.journal.trail.cursor i with hahead | hkept
      · exact Or.inr (Or.inl ⟨hahead, id, w, hchooser, rfl⟩)
      · exact Or.inl ((Trail.push_getElem? hkept).trans h)
    · intro state h
      refine (Trail.mem_push h).imp_right fun he => ⟨id, w, ?_, he⟩
      cases c with
      | userSet | select => exact hchooser
      | add | back | forward | dispatch => cases hchooser

/-- A group that shows one hundred milliseconds. -/
def narrowGroup : Group := ⟨⟨"a"⟩, [.showing ⟨0, 100⟩ []], false, 1, .none⟩

/-- A group that shows three hundred milliseconds. -/
def wideGroup : Group := ⟨⟨"b"⟩, [.showing ⟨0, 300⟩ []], false, 1, .none⟩

theorem run_keeps_states_choice :
    (((Board.empty (Journal.start [])).run [.add wideGroup, .add narrowGroup]).act
      (.userSet ⟨"b"⟩ 0 ⟨10, 20⟩)).journal.trail.states[0]?
        = some (Entry.toState ⟨⟨"a"⟩, ⟨0, 100⟩⟩) := by
  obtain ⟨hkept, -⟩ := run_keeps_states [] [.add wideGroup, .add narrowGroup]
    (.userSet ⟨"b"⟩ 0 ⟨10, 20⟩) _ rfl
  rcases hkept 0 (Entry.toState ⟨⟨"a"⟩, ⟨0, 100⟩⟩) rfl with hsame | ⟨hahead, -⟩ | ⟨-, g, w, hadd, -⟩
  · exact hsame
  · cases hahead
  · cases hadd

/-- A second group, added when the base of the first one is the current state, overwrites it. -/
theorem add_overwrites :
    ¬ ∀ (calls : List Call) (c : Call) (b : Board) (t : GroupId) (e : Entry) (i : Nat),
      b = (Board.empty (Journal.start [])).run calls → c.target? = some t →
      e.WellFormed → e.group ∈ b.names → e.group ≠ t →
      b.journal.trail.states[i]? = some e.toState →
      ¬ (c.chooser?.isSome = true ∧ b.journal.trail.cursor < i) →
      (b.act c).journal.trail.states[i]? = some e.toState := by
  intro h
  have hkept := h [.add narrowGroup] (.add wideGroup) _ ⟨"b"⟩ ⟨⟨"a"⟩, ⟨0, 100⟩⟩ 0 rfl rfl
    ⟨by decide, by decide +kernel⟩ (by decide +kernel) (by decide) rfl (by rintro ⟨⟨⟩, -⟩)
  have hread := congrArg (Option.bind · Entry.ofState?) hkept
  exact absurd hread (by decide +kernel)

end Board

end LinkedCharts
