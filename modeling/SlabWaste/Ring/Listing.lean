/-
  SlabWaste.Ring.Listing
  ──────────────────────
  **A PLOT AS A LIST OF SHAPES.**

  A plot is handed on as text, one shape a line, for whatever program renders it:
  the wedges, the points on them and the texts, in the order of drawing.
-/
import SlabWaste.Ring.Drawing

namespace SlabWaste.Ring

/-- How many places the numbers of a listing have. -/
def listingPlaces : Nat := 9

/-- Numbers side by side. -/
def numbers (xs : List Binary64) : String := " ".intercalate (xs.map (·.fixed listingPlaces))

/-- The line of a wedge. -/
def Wedge.listing (w : Wedge) : String :=
  "wedge " ++ numbers [w.center.x, w.center.y, w.radius, w.width, w.start, w.stop,
    w.colour.red, w.colour.green, w.colour.blue] ++ "\n"

/-- The line of a point. -/
def Point.listing (p : Point) : String := "point " ++ numbers [p.x, p.y] ++ "\n"

/-- The line of a text. -/
def Callout.listing (a : Callout) : String :=
  "text " ++ numbers [a.about.x, a.about.y, a.position.x, a.position.y] ++ " " ++ a.text ++ "\n"

/-- The lines of a plot. -/
def Plot.listing (p : Plot) : String :=
  String.join (p.wedges.map Wedge.listing ++ p.points.map Point.listing
    ++ p.callouts.map Callout.listing)

end SlabWaste.Ring
