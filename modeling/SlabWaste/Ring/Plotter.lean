/-
  SlabWaste.Ring.Plotter
  ──────────────────────
  **THE LIBRARY THAT DRAWS.**

  Charts are drawn by a plotting library, which is no part of this one.  A run
  takes it as a value: what it makes of a colour and of a wedge, what it writes
  when it is told to draw, to save or to show a figure, and what it raises.  Any
  of its requests may fail, and what it raises is caught by nobody.

      Plotter             what the library answers to each request
      Reply               what a request writes, and what it raises
      Plotter.recorder    a library that makes of colours and wedges what they
                          say, and never fails to draw, to save or to show
-/
import SlabWaste.Ring.Section

namespace SlabWaste.Ring

/-! ## §1. What is handed over. -/

/-- A colour by its red, green and blue parts. -/
structure Colour where
  red : Binary64
  green : Binary64
  blue : Binary64
  deriving DecidableEq, Repr

/-- A point of the plane. -/
structure Point where
  x : Binary64
  y : Binary64
  deriving DecidableEq, Repr

/-- How wide rings are.  A whole number keeps its exact value until it is drawn. -/
inductive Width where
  | whole (n : Int)
  | real (x : Binary64)
  deriving DecidableEq, Repr

/-- A wedge as it is asked for. -/
structure Outline where
  center : Point
  radius : Width
  width : Width
  start : Binary64
  stop : Binary64
  colour : Colour
  deriving DecidableEq, Repr

/-- A piece of a ring between two angles in degrees. -/
structure Wedge where
  center : Point
  radius : Binary64
  width : Binary64
  start : Binary64
  stop : Binary64
  colour : Colour
  deriving DecidableEq, Repr

/-- A text that belongs to a point. -/
structure Callout where
  text : String
  about : Point
  position : Point
  deriving DecidableEq, Repr

/-- A plot, as far as it was made. -/
structure Plot where
  /-- The file that the plot goes to. -/
  saved : Option String := none
  /-- The plot is shown on the screen. -/
  shown : Bool := false
  wedges : List Wedge := []
  points : List Point := []
  callouts : List Callout := []
  deriving DecidableEq, Repr

/-! ## §2. What comes back. -/

/-- What a request comes to: what it writes, and what it raises, if anything. -/
structure Reply where
  output : String := ""
  errorOutput : String := ""
  failure? : Option Fault := none
  deriving DecidableEq, Repr

/-- A plotting library.  Colours and wedges are values, and to make one writes nothing. -/
structure Plotter where
  /-- Load the library. -/
  load : Reply := {}
  /-- The colour that a text stands for. -/
  colour : String → Except Fault Colour
  /-- Make a wedge. -/
  wedge : Outline → Except Fault Wedge
  /-- Make an empty figure. -/
  figure : Reply := {}
  /-- Put the wedges, the points and the texts of a plot into the figure. -/
  compose : Plot → Reply := fun _ => {}
  /-- Save the figure to a file. -/
  save : Plot → String → Reply := fun _ _ => {}
  /-- Show the figure on the screen. -/
  display : Plot → Reply := fun _ => {}
  /-- Close the figure. -/
  close : Plot → Reply := fun _ => {}

/-! ## §3. A library that records. -/

/-- The colour that is written as three bytes of two hexadecimal digits, after a mark. -/
def Colour.ofText (text : String) : Except Fault Colour := do
  let part (place : Nat) : Except Fault Binary64 := do
    let digits := String.ofList ((text.toList.drop place).take 2)
    let byte ← (Numeral.read .sixteen digits).mapError .number
    return .round ((byte : Rat) / 255)
  return ⟨← part 1, ← part 3, ← part 5⟩

/-- A width in floating point. -/
def Width.toBinary64 : Width → Except Fault Binary64
  | .whole n => orOverflow (Binary64.ofInt? n)
  | .real x => .ok x

/-- A number is finite. -/
def isFinite : Binary64 → Bool
  | .finite _ => true
  | _ => false

/-- The wedge that was asked for; there is none without an end. -/
def Outline.wedge (w : Outline) : Except Fault Wedge := do
  if isFinite w.start && isFinite w.stop then
    return ⟨w.center, ← w.radius.toBinary64, ← w.width.toBinary64, w.start, w.stop, w.colour⟩
  else .error .notFinite

/-- The library that makes of colours and wedges what they say, and does whatever else it is told
without a word. -/
def Plotter.recorder : Plotter where
  colour := Colour.ofText
  wedge := Outline.wedge

end SlabWaste.Ring
