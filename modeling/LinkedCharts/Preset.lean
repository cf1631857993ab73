import LinkedCharts.Window
import LinkedCharts.Text.Blank

/-!
# Window presets

The buttons above a chart: the last second up to the last five hours of the data, or all of it.

Models of `RangePreset` and its functions.

Results:
* `Preset.span?`: the length of a preset's window.
* `Preset.resolve`: the window of a preset at the end of a full window.
* `Preset.ofLabel?`: a preset from what somebody typed.
-/

namespace LinkedCharts

/-- A length of window that a button offers. -/
inductive Preset
  | second
  | fiveSeconds
  | minute
  | fiveMinutes
  | hour
  | fiveHours
  | all
deriving DecidableEq, Inhabited

namespace Preset

/-- The presets from the shortest window to the longest. Models `ALL_PRESETS`. -/
def everyOne : List Preset :=
  [.second, .fiveSeconds, .minute, .fiveMinutes, .hour, .fiveHours, .all]

/-- The preset that is active when none is chosen. -/
def standard : Preset := .all

/-- The length of the window in milliseconds; all of the data has no length of its own. -/
def milliseconds? : Preset → Option Nat
  | .second => some 1000
  | .fiveSeconds => some 5000
  | .minute => some 60000
  | .fiveMinutes => some 300000
  | .hour => some 3600000
  | .fiveHours => some 18000000
  | .all => none

/-- The length of the window as a time. Models `span_ms`. -/
def span? (p : Preset) : Option Binary64 := p.milliseconds?.map .ofNat

/-- The text on the button. Models `label`. -/
def label : Preset → String
  | .second => "1s"
  | .fiveSeconds => "5s"
  | .minute => "1m"
  | .fiveMinutes => "5m"
  | .hour => "1h"
  | .fiveHours => "5h"
  | .all => "All"

/-- The window of the preset's length at the end of `full`, or `full` if that is not longer. Models
    `resolve`. -/
def resolve (p : Preset) (full : Window) : Window :=
  match p.span? with
  | some span =>
    if span < full.span then
      match Window.make? (full.hi - span) full.hi with
      | .ok w => w
      | .error _ => full
    else full
  | none => full

/-- The preset whose label is `text`, apart from case and from blanks around it. Models
    `from_str`. -/
def ofLabel? (text : String) : Except Fault Preset :=
  match everyOne.find? fun p => Text.sameIgnoringCase p.label.toList (Text.trim text.toList) with
  | some p => .ok p
  | none => .error (.invalidData (.unknownPreset text))

/-! ## JSON -/

open Json

/-- The preset as its label. -/
def toJson (p : Preset) : Value := .string p.label

/-- A preset from its label, which has to be spelled exactly. -/
def ofTree? (t : Tree) : Option Preset := do
  let name ← t.unitVariant?
  everyOne.find? fun p => p.label = name

end Preset

end LinkedCharts
