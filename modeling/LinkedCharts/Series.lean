import LinkedCharts.Sample
import LinkedCharts.Fault

/-!
# Series of samples

A series holds its samples in ascending order of time. Samples that arrive later are appended at
the end, and only those that are newer than everything held.

Models of `Series` and `SeriesKind`.

Results:
* `Series.setSamples`: new samples, sorted by time; samples of the same time keep their order.
* `Series.append`: one sample more, if it is newer.
* `Series.IsPollable`: live data is asked for.
-/

namespace LinkedCharts

/-- What a series is drawn as. -/
inductive SeriesKind
  /-- the line of a metric -/
  | line
  /-- the overview in the strip below the chart -/
  | navigator
deriving DecidableEq, Inhabited

namespace SeriesKind

/-- The name of a kind in JSON. -/
def name : SeriesKind → String
  | .line => "line"
  | .navigator => "navigator"

open Json

/-- The kind as a variant. -/
def toJson (k : SeriesKind) : Value := .string k.name

/-- A kind from a variant. -/
def ofTree? (t : Tree) : Option SeriesKind :=
  match t.unitVariant? with
  | some "line" => some .line
  | some "navigator" => some .navigator
  | _ => none

end SeriesKind

/-- A named series of samples, with the address that live data comes from if there is one. -/
structure Series where
  name : String
  kind : SeriesKind
  url : Option String
  samples : Array Sample
deriving DecidableEq, Inhabited

namespace Series

/-- A series without samples. Models `Series.line` and `Series.navigator`, with `with_url`. -/
def empty (name : String) (kind : SeriesKind) (url : Option String) : Series :=
  ⟨name, kind, url, #[]⟩

/-- Samples in ascending order of time; those of the same time keep their order. Models the sort in
    `set_points` and `deserialize_sorted_points`. -/
def sorted (samples : List Sample) : List Sample :=
  samples.mergeSort fun a b => a.time.rank ≤ b.time.rank

/-- The series with other samples, which have to be finite. Models `set_points`. -/
def setSamples (s : Series) (samples : List Sample) : Except Fault Series :=
  if ∀ x ∈ samples, x.IsFinite then .ok { s with samples := (sorted samples).toArray }
  else .error (.invalidData (.nonFiniteSamples s.name))

/-- The time of the newest sample. Models `last_time`. -/
def lastTime? (s : Series) : Option Binary64 := s.samples.back?.map (·.time)

/-- The sample is finite and newer than all samples held. Models the checks of `append_point`. -/
def Accepts (s : Series) (x : Sample) : Prop :=
  x.IsFinite ∧ ∀ last ∈ s.lastTime?, ¬ x.time ≤ last

instance (s : Series) (x : Sample) : Decidable (s.Accepts x) :=
  inferInstanceAs (Decidable (_ ∧ _))

/-- The series with the sample at its end if it accepts it, and unchanged otherwise. Models
    `append_point`. -/
def append (s : Series) (x : Sample) : Series :=
  if s.Accepts x then { s with samples := s.samples.push x } else s

/-- Live data is asked for: the series is a line and has an address. Models `is_pollable`. -/
def IsPollable (s : Series) : Prop := s.kind = .line ∧ s.url.isSome

instance (s : Series) : Decidable s.IsPollable := inferInstanceAs (Decidable (_ ∧ _))

/-! ## JSON -/

open Json

/-- A series as a record; an address that is missing is left out. -/
def toJson (s : Series) : Value :=
  .object ([("name", .string s.name), ("type", s.kind.toJson)]
    ++ (s.url.map fun u => ("url", Value.string u)).toList
    ++ [("data", .array (s.samples.toList.map Sample.toJson))])

/-- A series from a record, its samples sorted by time. -/
def ofTree? (t : Tree) : Option Series :=
  match t.fields? ["name", "type", "url", "data"] with
  | some [name, kind, url, data] => do
    let name ← Tree.required Tree.string? name
    let kind ← Tree.optional .line SeriesKind.ofTree? kind
    let url ← Tree.optional none (Tree.nullable Tree.string?) url
    let data ← Tree.optional [] Sample.listOfTree? data
    some ⟨name, kind, url, (sorted data).toArray⟩
  | _ => none

end Series

end LinkedCharts
