import LinkedCharts.Group.Shared

/-!
# Boards

A board holds the chart groups of a page, in the order in which they were added, and the journal
that they share. Groups are addressed by name; a state of the history goes to the group that it
names.

Models of `ChartBoard` and `NavigationOutcome`.

Results:
* `Board.add`: one group more, unless its name is taken.
* `Board.userSet`, `Board.select`: a user acts on a chart of a group.
* `Board.dispatch`: a history state is delivered.
* `Board.back`, `Board.forward`: steps through the history.
-/

namespace LinkedCharts

open Json

/-- The chart groups of a page by name, and their journal. -/
structure Board where
  groups : List (GroupId × Shared)
  journal : Journal
deriving Inhabited

/-- What became of a step through the history. -/
inductive Navigation
  /-- there is nothing further in that direction -/
  | atEnd
  /-- the state reached belongs to no group -/
  | unclaimed
  /-- a group showed the window of the state reached -/
  | applied (group : GroupId)
deriving DecidableEq

/-- Delivers a history state to groups in order until one fails, and returns the last that took it,
    `found` if none did. Models the loop of `dispatch_navigation`. -/
def deliver (state : Value) (found : Option GroupId) :
    List (GroupId × Shared) → List (GroupId × Shared) × Except Fault (Option GroupId)
  | [] => ([], .ok found)
  | (id, shared) :: rest =>
    match shared.use (·.navigated state) with
    | (shared, .error f) => ((id, shared) :: rest, .error f)
    | (shared, .ok took) =>
      let (rest, answer) := deliver state (if took then some id else found) rest
      ((id, shared) :: rest, answer)

namespace Board

/-- A board without groups. Models `ChartBoard.new`. -/
def empty (journal : Journal) : Board := ⟨[], journal⟩

/-- The group of a name. Models `group`. -/
def group? (b : Board) (id : GroupId) : Except Fault Shared :=
  match b.groups.lookup id with
  | some s => .ok s
  | none => .error (.unknownGroup id.text)

/-- The board with another state of the group of a name. -/
def put (b : Board) (id : GroupId) (s : Shared) : Board :=
  { b with groups := b.groups.map fun (k, old) => (k, if k = id then s else old) }

/-- Adds a group whose name is not taken, once its window is the base of the history. Models
    `add_group`. -/
def add (b : Board) (g : Group) : Board × Except Fault Unit :=
  match b.groups.lookup g.id with
  | some _ => (b, .error (.duplicateGroup g.id.text))
  | none =>
    match g.anchor b.journal with
    | (journal, .error f) => ({ b with journal }, .error f)
    | (journal, .ok _) => (⟨b.groups ++ [(g.id, .ofGroup g)], journal⟩, .ok ())

/-- Uses the group of a name, under its lock and with the journal of the board. -/
def onGroup {α : Type} (b : Board) (id : GroupId)
    (act : Group → Journal → Group × Journal × Except Fault α) : Board × Except Fault α :=
  match b.group? id with
  | .error f => (b, .error f)
  | .ok s =>
    let (s, journal, answer) := s.useWith b.journal act
    ({ b.put id s with journal }, answer)

/-- A user zooms or pans one chart of a group. Models `user_set_range`. -/
def userSet (b : Board) (id : GroupId) (origin : Nat) (w : Window) : Board × Except Fault Outcome :=
  b.onGroup id fun g j => g.userSet j origin w

/-- A user presses the button of a preset on one chart of a group. Models `select_preset`. -/
def select (b : Board) (id : GroupId) (origin : Nat) (p : Preset) : Board × Except Fault Outcome :=
  b.onGroup id fun g j => g.select j origin p

/-- The window that a group shows. Models `shared_range`. -/
def shared? (b : Board) (id : GroupId) : Except Fault (Option Window) := do
  let s ← b.group? id
  let g ← s.read?
  return g.shared?

/-- Somebody fails while holding the lock of a group. -/
def poison (b : Board) (id : GroupId) : Board × Except Fault Unit :=
  match b.group? id with
  | .error f => (b, .error f)
  | .ok s => (b.put id s.poison, .ok ())

/-- Delivers a history state to all groups, and returns the one that took it. Models
    `dispatch_navigation`. -/
def dispatch (b : Board) (state : Value) : Board × Except Fault (Option GroupId) :=
  let (groups, answer) := deliver state none b.groups
  ({ b with groups }, answer)

/-- Moves through the trail of the journal, and delivers the state reached. Models `route_step`. -/
def navigate (b : Board) (move : Trail → Trail × Option Value) : Board × Except Fault Navigation :=
  match move b.journal.trail with
  | (trail, none) => ({ b with journal := { b.journal with trail } }, .ok .atEnd)
  | (trail, some state) =>
    let (b, answer) := { b with journal := { b.journal with trail } : Board }.dispatch state
    (b, answer.map fun
      | some id => .applied id
      | none => .unclaimed)

/-- One state back. Models `navigate_back`. -/
def back (b : Board) : Board × Except Fault Navigation := b.navigate Trail.back

/-- One state forward. Models `navigate_forward`. -/
def forward (b : Board) : Board × Except Fault Navigation := b.navigate Trail.forward

end Board

end LinkedCharts
