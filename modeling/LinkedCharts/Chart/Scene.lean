import LinkedCharts.Calls
import LinkedCharts.Chart.Settings
import LinkedCharts.Series.Slice

/-!
# Scenes and the canvas they are drawn on

A scene is everything that one drawing of a chart shows. A canvas draws scenes: it refuses those
that do not fit together and remembers the last one that it drew.

Models of `RenderFrame` and `SeriesFrame`, and of a `NullRenderer` that fails some of its calls.

Results:
* `Scene.check`: a scene with an area to draw on and with samples inside its window only.
* `Canvas.draw`: the canvas after a scene, and whether it was drawn.
-/

namespace LinkedCharts

/-- What is drawn of one series. -/
structure Layer where
  name : String
  kind : SeriesKind
  samples : Array Sample
deriving DecidableEq, Inhabited

/-- What one drawing of a chart shows. -/
structure Scene where
  size : PixelSize
  title : String
  window : Window
  layers : List Layer
deriving DecidableEq, Inhabited

namespace Scene

/-- The number of samples in all layers. Models `point_count`. -/
def sampleCount (s : Scene) : Nat := (s.layers.map fun l => l.samples.size).foldl (· + ·) 0

/-- All samples of the layer lie in the window. -/
def Holds (w : Window) (l : Layer) : Prop := ∀ x ∈ l.samples, w.Contains x.time

instance (w : Window) (l : Layer) : Decidable (Holds w l) :=
  inferInstanceAs (Decidable (∀ x ∈ l.samples, _))

/-- Refuses a scene without an area to draw on, and then one whose layers leave its window. Models
    `validate`. -/
def check (s : Scene) : Except Fault Unit := do
  s.size.check
  match s.layers.find? fun l => ¬ Holds s.window l with
  | some l => throw (.invalidData (.samplesOutside l.name))
  | none => return ()

end Scene

/-- A drawing area. -/
structure Canvas where
  /-- the attempts to draw -/
  calls : Calls
  /-- how many scenes were drawn -/
  drawn : Nat
  /-- the last scene that was drawn -/
  last : Option Scene
deriving DecidableEq, Inhabited

namespace Canvas

/-- A canvas that nothing was drawn on, and the numbers of the draws that it refuses. -/
def blank (refused : List Nat) : Canvas := ⟨.ofRefused refused, 0, none⟩

/-- The number of samples on the canvas. -/
def sampleCount (c : Canvas) : Nat := (c.last.map Scene.sampleCount).getD 0

/-- The canvas after an attempt to draw a scene. A refusal by number comes before the check of the
    scene. Models `render`. -/
def draw (c : Canvas) (s : Scene) : Canvas × Except Fault Unit :=
  let c := { c with calls := c.calls.next }
  if c.calls.IsRefused then (c, .error (.invalidData (.drawRefused c.calls.made)))
  else
    match s.check with
    | .error f => (c, .error f)
    | .ok () => ({ c with drawn := c.drawn + 1, last := some s }, .ok ())

end Canvas

end LinkedCharts
