/-
  SlabWaste.Number.Circle
  ───────────────────────
  **SINE AND COSINE.**

  The two functions are summed from their power series in fixed point, with
  `fractionBits` bits after the point, and rounded once.  For the angles of a
  chart, which stay within a few turns, the terms left out and the bits cut off
  are far below half a unit in the last place of the result.
-/
import SlabWaste.Number.Binary64

namespace SlabWaste.Binary64

/-! ## §1. The series in fixed point. -/

/-- The bits after the point. -/
def fractionBits : Nat := 160

/-- The number one in fixed point. -/
def unit : Int := Nat.pow 2 fractionBits

/-- How many terms are summed. -/
def termCount : Nat := 96

/-- The terms of a series that alternates and goes on by two powers at a time: `term` belongs to
the power `k`, and `square` is the square of the argument. -/
def alternating (square : Int) : Nat → Nat → Int → Int
  | 0, _, _ => 0
  | n + 1, k, term =>
      term + alternating square n (k + 2) (-(term * square / unit) / ((k + 1) * (k + 2) : Nat))

/-- A function given by its first term and the power that this term belongs to. -/
def circular (power : Nat) (first : Int → Int) (x : Rat) : Binary64 :=
  let a := roundToEven (x * unit)
  round ((alternating (a * a / unit) termCount power (first a) : Rat) / (unit : Rat))

/-! ## §2. The functions. -/

/-- Apply a function of finite numbers. -/
def onFinite (f : Rat → Binary64) : Binary64 → Binary64
  | .finite x => f x
  | _ => .nan

/-- The cosine of an angle in radians. -/
def cosine : Binary64 → Binary64 := onFinite (circular 0 fun _ => unit)

/-- The sine of an angle in radians. -/
def sine : Binary64 → Binary64 := onFinite (circular 1 id)

/-- The floating-point number nearest to the circle constant. -/
def pi : Binary64 := .finite (mkRat 884279719003555 281474976710656)

/-- An angle given in degrees, in radians. -/
def radians (x : Binary64) : Binary64 := x * (pi / .finite 180)

end SlabWaste.Binary64
