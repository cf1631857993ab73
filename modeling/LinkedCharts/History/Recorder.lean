import LinkedCharts.Fault
import LinkedCharts.History.Entry

/-!
# Histories that entries are written to

Chart groups write to a history and never read it. Any history will do that takes an entry as a new
state or in the place of the current one; it can refuse a write, and leaves then whatever it leaves.

Models of `NavigationHistory`, whose `push_entry` and `replace_entry` are the two operations, and of
`EchoOnlyHistory`.

Results:
* `Recorder`: the write side of a history.
* `EchoOnly`: the history of steps that record nothing.
-/

namespace LinkedCharts

/-- The write side of a history. -/
class Recorder (H : Type) where
  /-- writes an entry as a new state behind the current one -/
  push : H → Entry → H × Except Fault Unit
  /-- writes an entry in the place of the current state -/
  replace : H → Entry → H × Except Fault Unit

/-- The history of steps that only ever cause echoes. A write that gets here is a fault. -/
inductive EchoOnly
  | sink

instance : Recorder EchoOnly where
  push h e := (h, .error (.invalidData (.echoRecorded e.group.text)))
  replace h e := (h, .error (.invalidData (.echoReplaced e.group.text)))

end LinkedCharts
