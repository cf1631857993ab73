/-!
# Counted calls

A part of a chart group that the outside world stands behind (a canvas, a backend for the axis, a
history) can refuse a call. Calls are counted from one, refused ones included, and the refused ones
are known by their number, so that a run with failures anywhere is a value like any other.

No function counts its calls. This is how canvases, charts and histories of a host that fail are
modelled.
-/

namespace LinkedCharts

/-- How many calls were made, and the numbers of those that are refused. -/
structure Calls where
  made : Nat
  refused : List Nat
deriving DecidableEq, Inhabited

namespace Calls

/-- No calls yet. -/
def ofRefused (refused : List Nat) : Calls := ⟨0, refused⟩

/-- One call more. -/
def next (c : Calls) : Calls := { c with made := c.made + 1 }

/-- The latest call is refused. -/
def IsRefused (c : Calls) : Prop := c.made ∈ c.refused

instance (c : Calls) : Decidable c.IsRefused := inferInstanceAs (Decidable (_ ∈ _))

theorem not_isRefused_next {c : Calls} (h : c.refused = []) : ¬ c.next.IsRefused := by
  show ¬ _ ∈ c.refused
  rw [h]
  exact List.not_mem_nil

end Calls

end LinkedCharts
