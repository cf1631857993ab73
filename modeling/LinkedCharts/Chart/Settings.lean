import LinkedCharts.Preset

/-!
# Settings of a chart

Settings are read from JSON, where every field may be left out. Reading does not check them;
`ChartSettings.check` does.

Models of `ViewportConfig` and `SurfaceSize`.

Results:
* `ChartSettings.check`: settings with an area to draw on and a sensible minimum.
* `ChartSettings.ofText?`: checked settings from a JSON text.
-/

namespace LinkedCharts

/-- The size of a drawing area in pixels. -/
structure PixelSize where
  width : Nat
  height : Nat
deriving DecidableEq, Inhabited

namespace PixelSize

/-- The size that is taken when none is given. -/
def standard : PixelSize := ⟨1000, 400⟩

/-- There is an area to draw on. Models `is_valid`. -/
def IsDrawable (s : PixelSize) : Prop := 0 < s.width ∧ 0 < s.height

instance (s : PixelSize) : Decidable s.IsDrawable := inferInstanceAs (Decidable (_ ∧ _))

/-- Refuses a size without an area. -/
def check (s : PixelSize) : Except Fault Unit :=
  if s.IsDrawable then .ok () else .error (.invalidSize s.width s.height)

open Json

/-- Widths and heights in JSON are below this. -/
def bound : Nat := 2 ^ (32 : Nat)

/-- The size as a record. -/
def toJson (s : PixelSize) : Value :=
  .object [("width", .ofNat s.width), ("height", .ofNat s.height)]

/-- A size from a record; zero is read, and refused only by `check`. -/
def ofTree? (t : Tree) : Option PixelSize :=
  match t.fields? ["width", "height"] with
  | some [width, height] => do
    some ⟨← Tree.required (Tree.nat? bound) width, ← Tree.required (Tree.nat? bound) height⟩
  | _ => none

end PixelSize

/-- A least length of a window: finite and not negative. Models the check of `min_range_ms`. -/
def IsMinimumSpan (x : Binary64) : Prop := x.isFinite ∧ ¬ x < 0

instance (x : Binary64) : Decidable (IsMinimumSpan x) := inferInstanceAs (Decidable (_ ∧ _))

/-- Settings of one chart. -/
structure ChartSettings where
  title : String
  size : PixelSize
  /-- the shortest window that zooming may show, in milliseconds -/
  minimumSpan : Binary64
  /-- the window shown at first -/
  preset : Preset
deriving DecidableEq, Inhabited

namespace ChartSettings

/-- The settings that are taken when none are given. -/
def standard : ChartSettings := ⟨"", .standard, 1, .standard⟩

/-- Refuses settings without an area to draw on, and then those without a sensible minimum. Models
    `validate`. -/
def check (s : ChartSettings) : Except Fault ChartSettings := do
  s.size.check
  if IsMinimumSpan s.minimumSpan then return s else throw (.invalidData .minimumSpan)

open Json

/-- The settings as a record of all four fields. -/
def toJson (s : ChartSettings) : Value :=
  .object [("title", .string s.title), ("size", s.size.toJson),
    ("min_range_ms", .real s.minimumSpan), ("initial_preset", s.preset.toJson)]

/-- Settings from a record whose fields may all be missing. -/
def ofTree? (t : Tree) : Option ChartSettings :=
  match t.fields? ["title", "size", "min_range_ms", "initial_preset"] with
  | some [title, size, minimum, preset] => do
    let title ← Tree.optional standard.title Tree.string? title
    let size ← Tree.optional standard.size PixelSize.ofTree? size
    let minimum ← Tree.optional standard.minimumSpan Tree.real? minimum
    let preset ← Tree.optional standard.preset Preset.ofTree? preset
    some ⟨title, size, minimum, preset⟩
  | _ => none

/-- Checked settings from a JSON text. Models `from_json_str`. -/
def ofText? (text : String) : Except Fault ChartSettings :=
  match (Tree.parse? text).bind ofTree? with
  | some s => s.check
  | none => .error (.invalidData .unreadableChartSettings)

end ChartSettings

end LinkedCharts
