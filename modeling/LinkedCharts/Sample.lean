import LinkedCharts.Json.Record

/-!
# Samples

A sample is a value at a time. In JSON it is the pair of the two.

Model of `DataPoint`.
-/

namespace LinkedCharts

/-- A value of a metric at a time in milliseconds. -/
structure Sample where
  time : Binary64
  value : Binary64
deriving DecidableEq, Inhabited

namespace Sample

/-- Time and value are both finite. Models `is_finite`. -/
def IsFinite (s : Sample) : Prop := s.time.isFinite ∧ s.value.isFinite

instance (s : Sample) : Decidable s.IsFinite := inferInstanceAs (Decidable (_ ∧ _))

open Json

/-- The sample as a pair. -/
def toJson (s : Sample) : Value := .array [.real s.time, .real s.value]

/-- A sample from an array of just two numbers. -/
def ofTree? (t : Tree) : Option Sample :=
  match t.items? with
  | some [time, value] => do some ⟨← time.real?, ← value.real?⟩
  | _ => none

/-- A list of samples. -/
def listOfTree? (t : Tree) : Option (List Sample) := do (← t.items?).mapM ofTree?

end Sample

end LinkedCharts
