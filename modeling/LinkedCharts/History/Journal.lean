import LinkedCharts.Calls
import LinkedCharts.History.Trail

/-!
# The journal of chart groups

A journal writes entries of chart groups into a navigation trail. A write can be refused, and then
leaves the trail as it is.

Model of a host that wraps a `MemoryHistory` and fails some of its writes.

Results:
* `Journal.push`: an entry as a new state.
* `Journal.replace`: an entry in the place of the current state.
-/

namespace LinkedCharts

/-- A navigation trail that chart groups write to. -/
structure Journal where
  trail : Trail
  /-- the attempts to write an entry -/
  writes : Calls
deriving Inhabited

namespace Journal

/-- A fresh trail, and the numbers of the writes that are refused. -/
def start (refused : List Nat) : Journal := ⟨.start, .ofRefused refused⟩

/-- Counts a write, and changes the trail unless the write is refused. -/
def write (j : Journal) (change : Trail → Trail) : Journal × Except Fault Unit :=
  let j := { j with writes := j.writes.next }
  if j.writes.IsRefused then (j, .error (.invalidData (.writeRefused j.writes.made)))
  else ({ j with trail := change j.trail }, .ok ())

/-- Writes an entry as a new state behind the current one. Models `push_entry`. -/
def push (j : Journal) (e : Entry) : Journal × Except Fault Unit :=
  j.write fun t => t.push e.toState

/-- Writes an entry in the place of the current state. Models `replace_entry`. -/
def replace (j : Journal) (e : Entry) : Journal × Except Fault Unit :=
  j.write fun t => t.replace e.toState

instance : Recorder Journal where
  push := Journal.push
  replace := Journal.replace

end Journal

end LinkedCharts
