/-
  SlabWaste.Ring.Colour
  ─────────────────────
  **COLOURS OF THE RINGS.**

  Going round, the colours run through a palette of six, each blending into the
  next; going out, they get darker.  The centre is grey.  What the colours of the
  palette are is up to the library that draws.
-/
import SlabWaste.Ring.Plotter

namespace SlabWaste.Ring

namespace Colour

/-- Combine two colours part by part. -/
def zip (f : Binary64 → Binary64 → Binary64) (a b : Colour) : Colour :=
  ⟨f a.red b.red, f a.green b.green, f a.blue b.blue⟩

/-- The colour of the centre. -/
def grey : String := "#808080"

/-- The palette, by the index taken round: 0 to 5, and on from the beginning. -/
def palette : Nat → String
  | 0 => "#ef2929"
  | 1 => "#ad7fa8"
  | 2 => "#729fcf"
  | 3 => "#8ae234"
  | 4 => "#e9b96e"
  | _ => "#fcaf3e"

end Colour

/-- How many colours the palette has. -/
def paletteSize : Int := 6

/-- The number one. -/
def one : Binary64 := .finite 1

/-- The number one hundred. -/
def hundred : Binary64 := .finite 100

/-- How far the scale of the palette runs from one colour to the next. -/
def stride : Binary64 := hundred / .finite 3

/-- The integer part of a number, if it is finite. -/
def truncate : Binary64 → Except Fault Int
  | .finite v => .ok (v.num.tdiv v.den)
  | .infinite _ => .error .overflow
  | .nan => .error .notFinite

/-- How bright a ring is. -/
def brightness (level : Int) : Except Fault Binary64 := do
  let steps ← orOverflow (Binary64.ofInt? (level - 1))
  return one - steps * .round (mkRat 3 10) / .finite 8

/-- The colour at an angle, in the ring at a given place. -/
def colourAt (start : Binary64) (level : Int) (lib : Plotter := .recorder) :
    Except Fault Colour := do
  if level = 1 then return ← lib.colour Colour.grey
  let bright ← brightness level
  let along := start / .finite 180 * .finite 99
  let index := (← truncate (along / stride)) % paletteSize
  let next := (index + 1) % paletteSize
  let colour ← lib.colour (Colour.palette index.toNat)
  let other ← lib.colour (Colour.palette next.toNat)
  let blend := (along - .round index * hundred / .finite 3) / stride
  return Colour.zip (fun c n => bright * (c - blend * (c - n))) colour other

end SlabWaste.Ring
