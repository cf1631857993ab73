import LinkedCharts.GroupId
import LinkedCharts.Window

/-!
# History entries

The navigation history of a page holds states of any kind. The state of a chart group is an object
with the name of the group and the ends of its window, so that it can live beside states that other
parts of the page own.

Models of `HistoryEntry`, and of `HistoryState` in its two JSON shapes.

Results:
* `Entry.toState`: an entry as a history state.
* `Entry.ofState?`: the entry in a history state, if it holds one.
-/

namespace LinkedCharts

open Json

/-- The window that a group showed. -/
structure Entry where
  group : GroupId
  window : Window
deriving DecidableEq, Inhabited

namespace Entry

/-- An entry from its parts, if the name is not empty and the window is well formed. Models the
    `try_from` of `HistoryEntry`. -/
def make? (id : String) (lo hi : Binary64) : Option Entry := do
  some ⟨← (GroupId.make? id).toOption, ← (Window.make? lo hi).toOption⟩

/-- The entry as a history state. Models `to_state`. -/
def toState (e : Entry) : Value :=
  .object [("id", .string e.group.text), ("from", .real e.window.lo), ("to", .real e.window.hi)]

/-- The entry in a history state: an object with these keys, or an array of the three in order.
    Models `from_state`. -/
def ofState? : Value → Option Entry
  | .object fields =>
    match Value.lookup "id" fields, Value.lookup "from" fields, Value.lookup "to" fields with
    | some (.string id), some (.number lo), some (.number hi) =>
      make? id lo.toBinary64 hi.toBinary64
    | _, _, _ => none
  | .array [.string id, .number lo, .number hi] => make? id lo.toBinary64 hi.toBinary64
  | _ => none

/-- An entry from a JSON text, as a record. -/
def ofTree? (t : Tree) : Option Entry :=
  match t.fields? ["id", "from", "to"] with
  | some [id, lo, hi] => do
    make? (← Tree.required Tree.string? id) (← Tree.required Tree.real? lo)
      (← Tree.required Tree.real? hi)
  | _ => none

end Entry

end LinkedCharts
