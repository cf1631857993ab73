import LinkedCharts.Group.Sync
import LinkedCharts.History.Journal

/-!
# Groups behind a lock

A group that several parties use is behind a lock. Somebody who fails while holding the lock leaves
it poisoned, and nobody gets at the group any more.

Models of `SharedGroup` and `lock_group`.
-/

namespace LinkedCharts

/-- A group behind a lock. -/
structure Shared where
  group : Group
  poisoned : Bool
deriving DecidableEq, Inhabited

namespace Shared

/-- A group behind a sound lock. -/
def ofGroup (g : Group) : Shared := ⟨g, false⟩

/-- Somebody failed while holding the lock. -/
def poison (s : Shared) : Shared := { s with poisoned := true }

/-- The group, if the lock is sound. Models `lock_group`. -/
def read? (s : Shared) : Except Fault Group := if s.poisoned then .error .poisoned else .ok s.group

/-- Uses the group under the lock. Models a call under `lock_group`. -/
def use {α : Type} (s : Shared) (act : Group → Group × Except Fault α) : Shared × Except Fault α :=
  if s.poisoned then (s, .error .poisoned)
  else
    let (group, answer) := act s.group
    ({ s with group }, answer)

/-- Uses the group under the lock together with a journal. -/
def useWith {α : Type} (s : Shared) (j : Journal)
    (act : Group → Journal → Group × Journal × Except Fault α) :
    Shared × Journal × Except Fault α :=
  if s.poisoned then (s, j, .error .poisoned)
  else
    let (group, j, answer) := act s.group j
    ({ s with group }, j, answer)

end Shared

end LinkedCharts
