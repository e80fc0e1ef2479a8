/-
  SlabWaste.Ring.Size
  ───────────────────
  **SIZES FOR PEOPLE.**

  A number of bytes is shown in the largest unit that it fills, with a given
  number of places.  The unit is chosen on the exact number and the quotient is
  rounded afterwards.
-/
import SlabWaste.Fault
import SlabWaste.Number.Decimal

namespace SlabWaste.Ring

/-- The units, largest first, each with the number of bytes in it. -/
def units : List (Nat × String) :=
  [ (1125899906842624, "PB"), (1099511627776, "TB"), (1073741824, "GB"),
    (1048576, "MB"), (1024, "kB"), (1, "bytes") ]

/-- The unit for a number of bytes: the largest that it fills, or else the byte. -/
def unitFor (n : Int) : Nat × String :=
  (units.find? fun u => decide ((u.1 : Int) ≤ n)).getD (1, "bytes")

/-- The most places that can be asked for. -/
def placesLimit : Int := 2147483647

/-- A number of bytes for people to read. -/
def humanSize (n : Int) (places : Int := 1) : Except Fault String :=
  if n = 1 then .ok "1 byte"
  else
    let (bytes, suffix) := unitFor n
    match Binary64.quotient? n bytes with
    | none => .error .overflow
    | some x =>
        if places < 0 ∨ placesLimit < places then .error .badPlaces
        else .ok (x.fixed places.toNat ++ " " ++ suffix)

end SlabWaste.Ring
