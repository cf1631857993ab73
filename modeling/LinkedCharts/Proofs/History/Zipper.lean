import LinkedCharts.Proofs.History.Trail

/-!
# A trail is two stacks around a state

A page's history can be kept as two stacks: the states behind the current one and those ahead of it,
the nearest on top. A new state goes on in front and empties the stack ahead; moving takes a state
from one stack and puts the current one on the other. A trail is a list with a cursor instead, and
cuts the list off when it is written to. The two never differ in what they answer.

The two stacks and the current state are all that there is to a trail, apart from its count of
pushes, so that an equation between trails can be read off them.

Results:
* `Zipper`: the two stacks, and what is done with them.
* `Trail.zipper`, `Trail.ext_zipper`: the stacks of a trail, which determine its states and cursor.
* `Trail.act_zipper`: one call to a trail is the same call to its stacks.
* `Trail.run_refines_stacks`: any run of a fresh trail.
-/

namespace LinkedCharts

open Json

/-! ## Stacks -/

/-- A current state between two stacks of states, the nearest on top. -/
structure Zipper where
  behind : List Value
  current : Value
  ahead : List Value

namespace Zipper

variable {z : Zipper}

/-- The page as it was loaded, with nothing behind it or ahead of it. -/
def start : Zipper := ⟨[], .null, []⟩

/-- The current state goes on the stack behind, and the stack ahead is emptied. -/
def push (z : Zipper) (v : Value) : Zipper := ⟨z.current :: z.behind, v, []⟩

/-- Another current state. -/
def replace (z : Zipper) (v : Value) : Zipper := { z with current := v }

/-- The top of the stack behind becomes current, and the current state goes on the stack ahead. -/
def back (z : Zipper) : Zipper × Option Value :=
  match z.behind with
  | [] => (z, none)
  | v :: rest => (⟨rest, v, z.current :: z.ahead⟩, some v)

/-- The top of the stack ahead becomes current, and the current state goes on the stack behind. -/
def forward (z : Zipper) : Zipper × Option Value :=
  match z.ahead with
  | [] => (z, none)
  | v :: rest => (⟨z.current :: z.behind, v, rest⟩, some v)

theorem back_reached (z : Zipper) : z.back.2 = z.behind.head? := by
  unfold back
  cases z.behind with
  | nil => rfl
  | cons v rest => rfl

theorem forward_reached (z : Zipper) : z.forward.2 = z.ahead.head? := by
  unfold forward
  cases z.ahead with
  | nil => rfl
  | cons v rest => rfl

theorem forward_back (h : z.behind ≠ []) : z.back.1.forward = (z, some z.current) := by
  obtain ⟨behind, current, ahead⟩ := z
  cases behind with
  | nil => exact absurd rfl h
  | cons v rest => rfl

theorem back_forward (h : z.ahead ≠ []) : z.forward.1.back = (z, some z.current) := by
  obtain ⟨behind, current, ahead⟩ := z
  cases ahead with
  | nil => exact absurd rfl h
  | cons v rest => rfl

end Zipper

/-! ## Calls -/

/-- What is asked of a history. -/
inductive Trail.Call
  | push (e : Entry)
  /-- a state of another part of the page -/
  | pushState (v : Value)
  | replace (e : Entry)
  | back
  | forward

/-- What a call answers. -/
inductive Trail.Reply
  | written (answer : Except Fault Unit)
  | reached (state : Option Value)

/-- The call adds a state. -/
def Trail.Call.pushes : Trail.Call → Bool
  | .push _ | .pushState _ => true
  | .replace _ | .back | .forward => false

/-- The stacks after a call, and the answer. -/
def Zipper.act (z : Zipper) : Trail.Call → Zipper × Trail.Reply
  | .push e => (z.push e.toState, .written (.ok ()))
  | .pushState v => (z.push v, .written (.ok ()))
  | .replace e => (z.replace e.toState, .written (.ok ()))
  | .back => (z.back.1, .reached z.back.2)
  | .forward => (z.forward.1, .reached z.forward.2)

/-- The stacks after calls in order, and the answers. -/
def Zipper.run (z : Zipper) : List Trail.Call → Zipper × List Trail.Reply
  | [] => (z, [])
  | c :: rest => (((z.act c).1.run rest).1, (z.act c).2 :: ((z.act c).1.run rest).2)

namespace Trail

variable {t u : Trail}

/-- The trail after a call, and the answer. -/
def act (t : Trail) : Call → Trail × Reply
  | .push e => ((Recorder.push t e).1, .written (Recorder.push t e).2)
  | .pushState v => (t.push v, .written (.ok ()))
  | .replace e => ((Recorder.replace t e).1, .written (Recorder.replace t e).2)
  | .back => (t.back.1, .reached t.back.2)
  | .forward => (t.forward.1, .reached t.forward.2)

/-- The trail after calls in order, and the answers. -/
def run (t : Trail) : List Call → Trail × List Reply
  | [] => (t, [])
  | c :: rest => (((t.act c).1.run rest).1, (t.act c).2 :: ((t.act c).1.run rest).2)

/-! ## The stacks of a trail -/

/-- What lies behind the cursor, under it and ahead of it. -/
def zipper (t : Trail) : Zipper :=
  ⟨(t.states.take t.cursor).reverse, t.current, t.states.drop (t.cursor + 1)⟩

theorem take_cursor (t : Trail) :
    t.states.take (t.cursor + 1) = t.states.take t.cursor ++ [t.current] :=
  List.take_succ_eq_append_getElem t.inside

theorem drop_cursor (t : Trail) :
    t.states.drop t.cursor = t.current :: t.states.drop (t.cursor + 1) :=
  List.drop_eq_getElem_cons t.inside

/-- The states are those behind, in the order in which they came, the current one and those
    ahead. -/
theorem states_eq (t : Trail) :
    t.states = t.zipper.behind.reverse ++ t.zipper.current :: t.zipper.ahead := by
  calc t.states = t.states.take t.cursor ++ t.states.drop t.cursor :=
        (List.take_append_drop t.cursor t.states).symm
    _ = (t.states.take t.cursor).reverse.reverse ++ t.current :: t.states.drop (t.cursor + 1) := by
        rw [List.reverse_reverse, drop_cursor]

theorem cursor_eq (t : Trail) : t.cursor = t.zipper.behind.length := by
  have := t.inside
  show t.cursor = (t.states.take t.cursor).reverse.length
  rw [List.length_reverse, List.length_take]
  omega

/-- Trails with the same stacks and the same count are the same. -/
theorem ext_zipper (h : t.zipper = u.zipper) (hpushes : t.pushes = u.pushes) : t = u := by
  have hstates : t.states = u.states := by rw [states_eq t, h, ← states_eq u]
  have hcursor : t.cursor = u.cursor := by rw [cursor_eq t, h, ← cursor_eq u]
  cases t
  cases u
  cases hstates
  cases hcursor
  cases hpushes
  rfl

theorem canGoBack_iff : t.CanGoBack ↔ t.zipper.behind ≠ [] := by
  rw [← List.length_pos_iff, ← cursor_eq]
  exact Iff.rfl

theorem canGoForward_iff : t.CanGoForward ↔ t.zipper.ahead ≠ [] := by
  show t.cursor + 1 < t.states.length ↔ t.states.drop (t.cursor + 1) ≠ []
  rw [ne_eq, List.drop_eq_nil_iff, Nat.not_le]

/-! ## Calls and stacks -/

theorem push_zipper (t : Trail) (v : Value) : (t.push v).zipper = t.zipper.push v := by
  have hlength : (t.states.take (t.cursor + 1)).length = t.cursor + 1 := by
    rw [List.length_take, Nat.min_eq_left t.inside]
  have hbehind : (t.push v).states.take (t.cursor + 1) = t.states.take t.cursor ++ [t.current] :=
    (List.take_left' hlength).trans t.take_cursor
  have hahead : (t.push v).states.drop (t.cursor + 1 + 1) = [] := by
    rw [List.drop_eq_nil_iff]
    show (t.states.take (t.cursor + 1) ++ [v]).length ≤ _
    rw [List.length_append, hlength, List.length_singleton]
  unfold zipper
  rw [push_current, show (t.push v).cursor = t.cursor + 1 from rfl, hbehind, hahead,
    List.reverse_append]
  rfl

theorem replace_zipper (t : Trail) (v : Value) : (t.replace v).zipper = t.zipper.replace v := by
  have hbehind : (t.replace v).states.take t.cursor = t.states.take t.cursor :=
    List.take_set_of_le (Nat.le_refl _)
  have hahead : (t.replace v).states.drop (t.cursor + 1) = t.states.drop (t.cursor + 1) :=
    List.drop_set_of_lt (Nat.lt_succ_self _)
  unfold zipper
  rw [replace_current, show (t.replace v).cursor = t.cursor from rfl, hbehind, hahead]
  rfl

/-- A cursor one place further on: the current state is on the stack behind, and the top of the
    stack ahead is current. -/
theorem zipper_of_next (hstates : u.states = t.states) (hcursor : u.cursor = t.cursor + 1) :
    u.zipper = ⟨t.current :: t.zipper.behind, u.current, u.zipper.ahead⟩ ∧
      t.zipper.ahead = u.current :: u.zipper.ahead := by
  have hahead : t.states.drop (t.cursor + 1) = u.current :: u.states.drop (u.cursor + 1) := by
    rw [← hstates, ← hcursor, drop_cursor]
  have hbehind :
      (u.states.take u.cursor).reverse = t.current :: (t.states.take t.cursor).reverse := by
    rw [hstates, hcursor, take_cursor, List.reverse_append]
    rfl
  exact ⟨congrArg (Zipper.mk · _ _) hbehind, hahead⟩

theorem back_zipper (t : Trail) : (t.back.1.zipper, t.back.2) = t.zipper.back := by
  by_cases h : t.CanGoBack
  · obtain ⟨u, hback, hstates, hcursor⟩ : ∃ u : Trail, t.back = (u, some u.current) ∧
        t.states = u.states ∧ t.cursor = u.cursor + 1 := by
      refine ⟨_, if_pos h, rfl, ?_⟩
      exact (Nat.sub_add_cancel h).symm
    obtain ⟨hstacks, hahead⟩ := zipper_of_next hstates hcursor
    rw [hback, hstacks]
    unfold Zipper.back
    dsimp only
    rw [← hahead]
    rfl
  · have hempty : t.zipper.behind = [] := not_not.1 (mt canGoBack_iff.2 h)
    have hback : t.back = (t, none) := if_neg h
    rw [hback]
    unfold Zipper.back
    rw [hempty]

theorem forward_zipper (t : Trail) : (t.forward.1.zipper, t.forward.2) = t.zipper.forward := by
  by_cases h : t.CanGoForward
  · obtain ⟨u, hforward, hstates, hcursor⟩ : ∃ u : Trail, t.forward = (u, some u.current) ∧
        u.states = t.states ∧ u.cursor = t.cursor + 1 := ⟨_, dif_pos h, rfl, rfl⟩
    obtain ⟨hstacks, hahead⟩ := zipper_of_next hstates hcursor
    rw [hforward, hstacks]
    unfold Zipper.forward
    rw [hahead]
    rfl
  · have hempty : t.zipper.ahead = [] := not_not.1 (mt canGoForward_iff.2 h)
    have hforward : t.forward = (t, none) := dif_neg h
    rw [hforward]
    unfold Zipper.forward
    rw [hempty]

/-- One call to a trail is the same call to its stacks. -/
theorem act_zipper (t : Trail) (c : Call) : ((t.act c).1.zipper, (t.act c).2) = t.zipper.act c := by
  cases c with
  | push e => exact congrArg (·, _) (t.push_zipper e.toState)
  | pushState v => exact congrArg (·, _) (t.push_zipper v)
  | replace e => exact congrArg (·, _) (t.replace_zipper e.toState)
  | back => exact congrArg (Prod.map id Reply.reached) t.back_zipper
  | forward => exact congrArg (Prod.map id Reply.reached) t.forward_zipper

theorem act_pushes (t : Trail) (c : Call) : (t.act c).1.pushes = t.pushes + c.pushes.toNat := by
  cases c with
  | push e | pushState v | replace e => rfl
  | back => exact t.back_spec.pushes
  | forward => exact t.forward_spec.pushes

/-! ## Runs -/

theorem run_zipper (t : Trail) (calls : List Call) :
    ((t.run calls).1.zipper, (t.run calls).2) = t.zipper.run calls := by
  induction calls generalizing t with
  | nil => rfl
  | cons c rest ih =>
    have hact := t.act_zipper c
    have hrest := ih (t.act c).1
    unfold run Zipper.run
    rw [← hact]
    dsimp only
    rw [← hrest]

theorem run_pushes (t : Trail) (calls : List Call) :
    (t.run calls).1.pushes = t.pushes + calls.countP Call.pushes := by
  induction calls generalizing t with
  | nil => rfl
  | cons c rest ih =>
    unfold run
    rw [ih, act_pushes, List.countP_cons]
    cases c.pushes with
    | false => rfl
    | true => exact Nat.add_right_comm _ _ _

/-- A move that comes back to the stacks of a trail, without a push, comes back to the trail. -/
theorem returned_of_zipper {moved : Trail × Option Value}
    (h : (moved.1.zipper, moved.2) = (t.zipper, some t.zipper.current))
    (hpushes : moved.1.pushes = t.pushes) : moved = (t, some t.current) :=
  Prod.ext (ext_zipper (congrArg Prod.fst h) hpushes) (congrArg Prod.snd h :)

/-- Going back and then forward again ends where it began. -/
theorem forward_of_back (h : t.CanGoBack) : t.back.1.forward = (t, some t.current) := by
  have hbehind : t.back.1.zipper = t.zipper.back.1 := congrArg Prod.fst t.back_zipper
  have hforward := t.back.1.forward_zipper
  rw [hbehind, Zipper.forward_back (canGoBack_iff.1 h)] at hforward
  exact returned_of_zipper hforward (t.back.1.forward_spec.pushes.trans t.back_spec.pushes)

/-- Going forward and then back again ends where it began. -/
theorem back_of_forward (h : t.CanGoForward) : t.forward.1.back = (t, some t.current) := by
  have hahead : t.forward.1.zipper = t.zipper.forward.1 := congrArg Prod.fst t.forward_zipper
  have hback := t.forward.1.back_zipper
  rw [hahead, Zipper.back_forward (canGoForward_iff.1 h)] at hback
  exact returned_of_zipper hback (t.forward.1.back_spec.pushes.trans t.forward_spec.pushes)

/-- A move of the trail that `can` be made or not, and the stack that it takes a state from. It
    reaches the top of the stack and is undone by the move the other way; with nothing on the stack
    it does nothing. -/
structure TakesFrom (stack : List Value) (can : Prop) (move undo : Trail → Trail × Option Value)
    (t : Trail) : Prop where
  possible : can ↔ stack ≠ []
  reached : (move t).2 = stack.head?
  stays : stack = [] → (move t).1 = t
  undone : can → undo (move t).1 = (t, some t.current)

theorem back_takesFrom (t : Trail) :
    TakesFrom t.zipper.behind t.CanGoBack back forward t where
  possible := canGoBack_iff
  reached := (congrArg Prod.snd t.back_zipper).trans t.zipper.back_reached
  stays hempty := by
    have hnone : ¬ t.CanGoBack := fun h => canGoBack_iff.1 h hempty
    exact t.back_spec.stays (back_eq_none_iff.2 hnone)
  undone := forward_of_back

theorem forward_takesFrom (t : Trail) :
    TakesFrom t.zipper.ahead t.CanGoForward forward back t where
  possible := canGoForward_iff
  reached := (congrArg Prod.snd t.forward_zipper).trans t.zipper.forward_reached
  stays hempty := by
    have hnone : ¬ t.CanGoForward := fun h => canGoForward_iff.1 h hempty
    exact t.forward_spec.stays (forward_eq_none_iff.2 hnone)
  undone := back_of_forward

/-- A fresh trail under any calls does what two stacks do under the same calls, answer by answer.
    Its states are the stack behind turned over, the current state and the stack ahead, with the
    cursor on the current one; so there always is one. It counts the states that were added. Moves
    are possible, and reach a state, just if there is one on their stack, and the move the other way
    restores the trail. -/
theorem run_refines_stacks (calls : List Call) :
    let t := (start.run calls).1
    let z := (Zipper.start.run calls).1
    t.zipper = z ∧ (start.run calls).2 = (Zipper.start.run calls).2 ∧
    t.states = z.behind.reverse ++ z.current :: z.ahead ∧ t.cursor = z.behind.length ∧
    t.states ≠ [] ∧ t.cursor < t.states.length ∧ t.states[t.cursor]? = some t.current ∧
    t.pushes = calls.countP Call.pushes ∧
    TakesFrom z.behind t.CanGoBack back forward t ∧
    TakesFrom z.ahead t.CanGoForward forward back t := by
  intro t z
  have hstacks : t.zipper = z := congrArg Prod.fst (start.run_zipper calls)
  have hreplies := congrArg Prod.snd (start.run_zipper calls)
  have hcount := (start.run_pushes calls).trans (Nat.zero_add _)
  clear_value z
  subst hstacks
  have hstates := t.states_eq
  have hcursor := t.cursor_eq
  refine ⟨rfl, hreplies, hstates, hcursor, ?_, ?_, ?_, hcount, t.back_takesFrom,
    t.forward_takesFrom⟩
  · rw [hstates]
    exact List.append_ne_nil_of_right_ne_nil _ (List.cons_ne_nil _ _)
  · rw [hstates, hcursor, List.length_append, List.length_reverse, List.length_cons]
    omega
  · rw [hcursor, hstates, ← List.length_reverse, List.getElem?_append_right (Nat.le_refl _),
      Nat.sub_self, List.getElem?_cons_zero]
    rfl

end Trail

end LinkedCharts
