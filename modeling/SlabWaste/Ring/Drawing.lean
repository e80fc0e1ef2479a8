/-
  SlabWaste.Ring.Drawing
  ──────────────────────
  **WHAT IS DRAWN, AND WHERE.**

  A section becomes a wedge.  Wedges too narrow to see are left out, and only
  those wide enough for a label get one, with a point on the wedge and the text
  further out in the same direction.  The middle of the chart carries the name of
  the measure and its sum.

      wedges sections width     a wedge and a label for each section
      sketch m callers          the sections and their wedges, if there are any
      draw m callers …          the whole plot, or that there is nothing to plot
-/
import SlabWaste.Number.Circle
import SlabWaste.Ring.Colour

namespace SlabWaste.Ring

/-! ## §1. Wedges. -/

/-- The middle of the chart. -/
def center : Point := ⟨one, one⟩

/-- So many widths side by side. -/
def Width.times (count : Int) : Width → Width
  | .whole n => .whole (count * n)
  | .real x => .real (.round count * x)

/-- How wide the rings of a chart are. -/
def ringWidth : Width := .real (.round (mkRat 1 5))

/-- The outline of a section, in rings of a given width. -/
def Section.outline (s : Section) (width : Width) (lib : Plotter) : Except Fault Outline := do
  let colour ← colourAt s.start s.level.number lib
  return ⟨center, width.times s.level.number, width, s.start, s.stop, colour⟩

/-- The wedge of a section. -/
def Section.wedge (s : Section) (width : Width) (lib : Plotter) : Except Fault Wedge := do
  lib.wedge (← s.outline width lib)

/-- The text at a wedge; a section without a name has none. -/
def Section.caption (s : Section) : Except Fault String :=
  if s.name = "" then .ok "" else s.label

/-- A wedge and its caption. -/
def Section.ring (s : Section) (width : Width) (lib : Plotter) :
    Except Fault (Wedge × String) := do
  let wedge ← s.wedge width lib
  return (wedge, ← s.caption)

/-- The wedges of sections, with their captions. -/
def wedges (sections : List Section) (width : Width := ringWidth) (lib : Plotter := .recorder) :
    Except Fault (List (Wedge × String)) :=
  sections.mapM (·.ring width lib)

/-! ## §2. Plots. -/

/-- The narrowest wedge that is drawn, in degrees. -/
def narrowestWedge : Rat := 1

/-- The narrowest wedge that is labelled, in degrees. -/
def narrowestLabel : Rat := 5

namespace Wedge

/-- How many degrees a wedge spans. -/
def span (w : Wedge) : Binary64 := w.stop - w.start

/-- A wedge wide enough to see. -/
def isVisible (w : Wedge) : Bool := !w.span.isBelow narrowestWedge

/-- A wedge wide enough for a label. -/
def isLabelled (w : Wedge) : Bool := !w.span.isBelow narrowestLabel

/-- The point in the direction of a wedge's middle, at a distance from its centre. -/
def toward (w : Wedge) (distance : Binary64) : Point :=
  let angle := Binary64.radians ((w.start + w.stop) / .finite 2)
  ⟨w.center.x + distance * angle.cosine, w.center.y + distance * angle.sine⟩

/-- How far the middle of a wedge is from its centre. -/
def middle (w : Wedge) : Binary64 := w.radius - w.width / .finite 2

/-- How far the label of a wedge is from its centre. -/
def outside (w : Wedge) : Binary64 :=
  .round (mkRat 1 10) + w.radius * .round (mkRat 3 2) - w.width / .finite 2

/-- The callout of a wedge. -/
def callout (w : Wedge) (text : String) : Callout :=
  ⟨text, w.toward w.middle, w.toward w.outside⟩

end Wedge

/-- The callout in the middle: the measure and its sum over the inner ring. -/
def title (m : Measure) (sections : List Section) : Except Fault Callout := do
  let inner := sections.filter (·.level = .inner)
  let size ← humanSize ((inner.map (·.size)).foldl (· + ·) 0)
  return ⟨m.name ++ " " ++ size, center, center⟩

/-- What there is to draw: sections, with their wedges and captions. -/
structure Sketch where
  sections : List Section
  rings : List (Wedge × String)
  deriving DecidableEq, Repr

/-- What there is to draw of a measure of callers, if there is anything. -/
def sketch (m : Measure) (callers : List Caller) (lib : Plotter := .recorder) :
    Except Fault (Option Sketch) := do
  let sections ← sections m callers
  if sections.isEmpty then return none
  return some ⟨sections, ← wedges sections ringWidth lib⟩

/-- The plot of a sketch. -/
def Sketch.plot (s : Sketch) (m : Measure) (file : String) (shown : Bool) : Except Fault Plot := do
  let title ← title m s.sections
  let visible := s.rings.filter (·.1.isVisible)
  let labels := (visible.filter fun r => r.2 ≠ "" && r.1.isLabelled).map fun r =>
    r.1.callout r.2
  return {
    saved := if file = "" then none else some file
    shown
    wedges := visible.map (·.1)
    points := labels.map (·.about)
    callouts := title :: labels }

/-- The plot of a measure of callers, if there is anything to plot. -/
def draw (m : Measure) (callers : List Caller) (file : String) (shown : Bool)
    (lib : Plotter := .recorder) : Except Fault (Option Plot) := do
  match ← sketch m callers lib with
  | none => return none
  | some sketch => return some (← sketch.plot m file shown)

end SlabWaste.Ring
