import LinkedCharts.History.Recorder

/-!
# The navigation trail

The states that a page went through, with a cursor on the current one. It starts with one `null`
state, that of the page as it was loaded. A new state goes behind the current one and drops
everything that lay ahead.

Models of `MemoryHistory` and its functions.

Results:
* `Trail.push`, `Trail.replace`: write a state.
* `Trail.back`, `Trail.forward`: move the cursor, and return the state reached.
-/

namespace LinkedCharts

open Json

/-- States with a cursor on the current one. -/
structure Trail where
  states : List Value
  cursor : Nat
  inside : cursor < states.length
  /-- how many states were pushed so far -/
  pushes : Nat

namespace Trail

/-- The trail of a page that was just loaded. Models `MemoryHistory.new`. -/
def start : Trail := ⟨[.null], 0, by decide, 0⟩

instance : Inhabited Trail := ⟨start⟩

/-- The current state. Models `current`. -/
def current (t : Trail) : Value := t.states.get ⟨t.cursor, t.inside⟩

/-- The number of states. Models `len`. -/
def size (t : Trail) : Nat := t.states.length

theorem inside_push (t : Trail) (v : Value) :
    t.cursor + 1 < (t.states.take (t.cursor + 1) ++ [v]).length := by
  have := t.inside
  rw [List.length_append, List.length_take, List.length_singleton]
  omega

/-- A state behind the current one; what lay ahead is dropped, and the cursor is on the new one.
    Models `push_state`. -/
def push (t : Trail) (v : Value) : Trail where
  states := t.states.take (t.cursor + 1) ++ [v]
  cursor := t.cursor + 1
  inside := t.inside_push v
  pushes := t.pushes + 1

/-- Another state in the place of the current one. Models the write of `replace_entry`. -/
def replace (t : Trail) (v : Value) : Trail where
  states := t.states.set t.cursor v
  cursor := t.cursor
  inside := by simpa using t.inside
  pushes := t.pushes

/-- A trail takes every entry. Models `push_entry` and `replace_entry`. -/
instance : Recorder Trail where
  push t e := (t.push e.toState, .ok ())
  replace t e := (t.replace e.toState, .ok ())

/-- There is a state before the current one. Models `can_go_back`. -/
def CanGoBack (t : Trail) : Prop := 0 < t.cursor

instance (t : Trail) : Decidable t.CanGoBack := inferInstanceAs (Decidable (_ < _))

/-- There is a state after the current one. Models `can_go_forward`. -/
def CanGoForward (t : Trail) : Prop := t.cursor + 1 < t.states.length

instance (t : Trail) : Decidable t.CanGoForward := inferInstanceAs (Decidable (_ < _))

/-- The cursor one state back, and the state reached; nothing at the first state. Models `back`. -/
def back (t : Trail) : Trail × Option Value :=
  if t.CanGoBack then
    let moved : Trail := { t with
      cursor := t.cursor - 1
      inside := by have := t.inside; omega }
    (moved, some moved.current)
  else (t, none)

/-- The cursor one state forward, and the state reached; nothing at the last state. Models
    `forward`. -/
def forward (t : Trail) : Trail × Option Value :=
  if h : t.CanGoForward then
    let moved : Trail := { t with
      cursor := t.cursor + 1
      inside := h }
    (moved, some moved.current)
  else (t, none)

end Trail

end LinkedCharts
