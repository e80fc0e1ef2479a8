/-
  SlabWaste.Ring.Section
  ──────────────────────
  **THE SECTIONS OF THE CHART.**

  The chart shows one measure of all callers in two rings.  The inner ring has a
  section for each caller whose measure is positive, as wide as its share.  Around
  it, the outer ring splits a caller's section into the bytes asked for and the
  bytes wasted, where the measure has such parts and neither is negative.

      Measure.split m u      the two parts of a measure
      sections m callers     the sections, each caller's together
-/
import SlabWaste.Ring.Size
import SlabWaste.Tally.Usage

namespace SlabWaste.Ring

/-! ## §1. Measures. -/

/-- What a chart shows of each caller. -/
inductive Measure where
  | current
  | total
  | peak
  | waste
  deriving DecidableEq, Repr

namespace Measure

/-- The name of a measure. -/
def name : Measure → String
  | .current => "current_alloc"
  | .total => "total_alloc"
  | .peak => "max_alloc"
  | .waste => "waste"

/-- The measures. -/
def every : List Measure := [.current, .total, .peak, .waste]

/-- The measure of a given name. -/
def ofName? (s : String) : Option Measure := every.find? (·.name == s)

/-- The value of a measure. -/
def size (u : Usage) : Measure → Int
  | .current => u.current.granted
  | .total => u.total.granted
  | .peak => u.peak.granted
  | .waste => u.waste

/-- The requested and the wasted part of a measure, whether or not they fit together. -/
def parts? (u : Usage) : Measure → Option (Int × Int)
  | .current => some (u.current.requested, u.waste)
  | .total => some (u.total.requested, u.total.waste)
  | .peak => some (u.peak.requested, u.peakWaste)
  | .waste => none

/-- The requested and the wasted part of a measure, if it has such parts and neither is
negative. -/
def split (m : Measure) (u : Usage) : Option (Int × Int) :=
  match m.parts? u with
  | some (requested, wasted) =>
      if requested < 0 ∨ wasted < 0 then none else some (requested, wasted)
  | none => none

end Measure

/-! ## §2. Sections. -/

/-- One of the two rings. -/
inductive Level where
  | inner
  | outer
  deriving DecidableEq, Repr

/-- The place of a ring, counted from the centre. -/
def Level.number : Level → Int
  | .inner => 2
  | .outer => 3

/-- A section of a ring: where it begins and how wide it is, in degrees. -/
structure Section where
  name : String
  size : Int
  level : Level
  start : Binary64
  angle : Binary64
  deriving DecidableEq, Repr

namespace Section

/-- The label of a section. -/
def label (s : Section) : Except Fault String := do
  return s.name ++ " " ++ (← humanSize s.size)

/-- Where a section ends. -/
def stop (s : Section) : Binary64 := s.start + s.angle

end Section

/-- A number that floating point can hold, or the fault that it is too large. -/
def orOverflow : Option Binary64 → Except Fault Binary64
  | some x => .ok x
  | none => .error .overflow

/-- The section of a caller in the inner ring. -/
def callerSection (name : String) (size total : Int) (start : Binary64) :
    Except Fault Section := do
  let angle ← orOverflow (Binary64.quotient? (size * 360) total)
  return ⟨name, size, .inner, start, angle⟩

/-- A part of a caller's section in the outer ring. -/
def partSection (name : String) (size whole : Int) (angle start : Binary64) :
    Except Fault Section := do
  let share ← orOverflow (Binary64.ofInt? size)
  let whole ← orOverflow (Binary64.ofInt? whole)
  return ⟨name, size, .outer, start, share * angle / whole⟩

/-- The sections in the outer ring around a caller's section. -/
def outerSections (around : Section) : Option (Int × Int) → Except Fault (List Section)
  | none => .ok []
  | some (requested, wasted) => do
      let whole := requested + wasted
      if whole ≤ 0 then return []
      let used ← partSection "" requested whole around.angle around.start
      if wasted ≤ 0 then return [used]
      let unused ← partSection "waste" wasted whole around.angle used.stop
      return [used, unused]

/-- The sections of callers from an angle on, where `total` is the full turn. -/
def sectionsFrom (m : Measure) (total : Int) (start : Binary64) :
    List Caller → Except Fault (List Section)
  | [] => .ok []
  | c :: rest => do
      let own ← callerSection c.name (m.size c.usage) total start
      let outer ← outerSections own (m.split c.usage)
      let others ← sectionsFrom m total own.stop rest
      return own :: outer ++ others

/-- The sections of a chart.  A caller whose measure is not positive has none. -/
def sections (m : Measure) (callers : List Caller) : Except Fault (List Section) :=
  let shown := callers.filter fun c => decide (0 < m.size c.usage)
  sectionsFrom m ((shown.map fun c => m.size c.usage).foldl (· + ·) 0) (.finite 0) shown

end SlabWaste.Ring
