import LinkedCharts.History.Journal
import LinkedCharts.Proofs.Window

/-!
# Entries on a trail

An entry with a name and a well-formed window survives its state: reading the state gives the entry
back. A trail keeps the states that are written to it until it is cut off before them; moving along
it writes nothing.

Results:
* `Entry.ofState?_toState`, `Entry.ofState?_wellFormed`: reading the state of an entry.
* `Trail.mem_push`, `Trail.push_getElem?`: which states a push leaves, and where.
* `Trail.replace_getElem?`: all states but the current one survive a replacement.
* `Trail.back_spec`, `Trail.forward_spec`: moving along a trail.
* `Journal.trail_of_write`: what a write leaves on the trail of a journal.
-/

namespace LinkedCharts

open Json

namespace Entry

/-- An entry that can be read back: its group has a name, and its window is finite. -/
structure WellFormed (e : Entry) : Prop where
  group : e.group.WellFormed
  window : e.window.WellFormed

theorem real_of_isFinite {x : Binary64} (h : x.isFinite = true) :
    Value.real x = .number (.real x) := if_pos h

theorem make?_of_wellFormed {e : Entry} (h : e.WellFormed) :
    make? e.group.text e.window.lo e.window.hi = some e := by
  have hid : GroupId.make? e.group.text = .ok e.group := if_pos h.group
  have hwindow : Window.make? e.window.lo e.window.hi = .ok e.window := if_pos h.window
  unfold make?
  rw [hid, hwindow]
  rfl

/-- The state of a well-formed entry is read as that entry. -/
theorem ofState?_toState {e : Entry} (h : e.WellFormed) : ofState? e.toState = some e := by
  unfold toState
  rw [real_of_isFinite h.window.1, real_of_isFinite h.window.2.1]
  exact make?_of_wellFormed h

theorem make?_wellFormed {id : String} {lo hi : Binary64} {e : Entry}
    (h : make? id lo hi = some e) : e.WellFormed := by
  unfold make? at h
  cases hid : GroupId.make? id with
  | error f =>
    rw [hid] at h
    cases h
  | ok name =>
    cases hw : Window.make? lo hi with
    | error f =>
      rw [hid, hw] at h
      cases h
    | ok w =>
      rw [hid, hw] at h
      cases h
      unfold GroupId.make? at hid
      split at hid
      · cases hid
        exact ⟨by assumption, (Window.make?_eq_ok_iff.1 hw).2⟩
      · cases hid

/-- An entry that is read from a state is well formed. -/
theorem ofState?_wellFormed {state : Value} {e : Entry} (h : ofState? state = some e) :
    e.WellFormed := by
  unfold ofState? at h
  split at h
  · split at h
    · exact make?_wellFormed h
    · cases h
  · exact make?_wellFormed h
  · cases h

end Entry

namespace Trail

variable {t : Trail} {v s : Value}

theorem current_mem (t : Trail) : t.current ∈ t.states := List.get_mem _ _

/-! ## Writing -/

theorem push_current (t : Trail) (v : Value) : (t.push v).current = v := by
  have hlen : (t.states.take (t.cursor + 1)).length = t.cursor + 1 := by
    rw [List.length_take, Nat.min_eq_left t.inside]
  unfold current push
  simp [hlen]

theorem replace_current (t : Trail) (v : Value) : (t.replace v).current = v := by
  unfold current replace
  simp

theorem mem_push (h : s ∈ (t.push v).states) : s ∈ t.states ∨ s = v := by
  rcases List.mem_append.1 h with h | h
  · exact Or.inl (List.mem_of_mem_take h)
  · exact Or.inr (List.mem_singleton.1 h)

/-- A push leaves the states up to the current one where they are. -/
theorem push_getElem? {i : Nat} (hi : i ≤ t.cursor) : (t.push v).states[i]? = t.states[i]? := by
  have hlen : i < (t.states.take (t.cursor + 1)).length := by
    rw [List.length_take, Nat.min_eq_left t.inside]
    omega
  show (t.states.take (t.cursor + 1) ++ [v])[i]? = _
  rw [List.getElem?_append_left hlen, List.getElem?_take_of_lt (by omega)]

theorem mem_replace (h : s ∈ (t.replace v).states) : s ∈ t.states ∨ s = v :=
  List.mem_or_eq_of_mem_set h

/-- Only the current state is replaced. -/
theorem replace_getElem? {i : Nat} (hi : i ≠ t.cursor) :
    (t.replace v).states[i]? = t.states[i]? := List.getElem?_set_ne (Ne.symm hi)

/-! ## Moving -/

/-- A move along the trail writes nothing. It reaches the state that becomes current, if any. -/
structure Moved (t : Trail) (result : Trail × Option Value) : Prop where
  states : result.1.states = t.states
  pushes : result.1.pushes = t.pushes
  stays : result.2 = none → result.1 = t
  reached : ∀ v ∈ result.2, result.1.current = v

theorem back_spec (t : Trail) : t.Moved t.back := by
  unfold back
  split
  · refine ⟨rfl, rfl, ?_, ?_⟩
    · rintro ⟨⟩
    · rintro v ⟨⟩
      rfl
  · refine ⟨rfl, rfl, fun _ => rfl, ?_⟩
    rintro v ⟨⟩

theorem back_eq_none_iff : t.back.2 = none ↔ ¬ t.CanGoBack := by
  unfold back
  split
  · rename_i h
    exact ⟨nofun, fun hn => absurd h hn⟩
  · rename_i h
    exact ⟨fun _ => h, fun _ => rfl⟩

theorem forward_spec (t : Trail) : t.Moved t.forward := by
  unfold forward
  split
  · refine ⟨rfl, rfl, ?_, ?_⟩
    · rintro ⟨⟩
    · rintro v ⟨⟩
      rfl
  · refine ⟨rfl, rfl, fun _ => rfl, ?_⟩
    rintro v ⟨⟩

theorem forward_eq_none_iff : t.forward.2 = none ↔ ¬ t.CanGoForward := by
  unfold forward
  split
  · rename_i h
    exact ⟨nofun, fun hn => absurd h hn⟩
  · rename_i h
    exact ⟨fun _ => h, fun _ => rfl⟩

end Trail

/-- A journal that is written to changes its trail, unless it refuses. -/
theorem Journal.write_trail (j : Journal) (change : Trail → Trail) :
    (j.write change).1.trail = j.trail ∨ (j.write change).1.trail = change j.trail := by
  unfold write
  dsimp only
  split
  · exact Or.inl rfl
  · exact Or.inr rfl

namespace Journal

variable {j j' : Journal}

/-- A journal that is written to has the changed trail, or refuses and has the trail that it had. -/
theorem trail_of_write (change : Trail → Trail) {answer : Except Fault Unit}
    (h : j.write change = (j', answer)) :
    j'.trail = match answer with
      | .ok _ => change j.trail
      | .error _ => j.trail := by
  unfold write at h
  dsimp only at h
  split at h
  · cases h
    rfl
  · cases h
    rfl

theorem trail_of_push {e : Entry} (h : Recorder.push j e = (j', .ok ())) :
    j'.trail = j.trail.push e.toState := trail_of_write (fun t => t.push e.toState) h

theorem trail_of_push_refused {e : Entry} {f : Fault} (h : Recorder.push j e = (j', .error f)) :
    j'.trail = j.trail := trail_of_write (fun t => t.push e.toState) h

theorem trail_of_replace_refused {e : Entry} {f : Fault}
    (h : Recorder.replace j e = (j', .error f)) : j'.trail = j.trail :=
  trail_of_write (fun t => t.replace e.toState) h

end Journal

end LinkedCharts
