/-
  SlabWaste.Number.Decimal
  ────────────────────────
  **FLOATING-POINT NUMBERS AS TEXT.**

      fixed places x   a given number of places after the point, the exact value
                       rounded, a half to the even neighbour
      shortest x       the fewest significant digits that read back as `x`, of
                       equally short ones the nearest; positional from 0.0001 up
                       to 10^16 (excluded), with an exponent elsewhere

  A shortest text is found on the grids of 1, 2, … 17 significant digits: if any
  point of a grid reads back, one of the two next to the value does.
-/
import SlabWaste.Number.Binary64
import SlabWaste.Number.Numeral

namespace SlabWaste.Binary64

open SlabWaste.Numeral

/-- The power of ten with a given exponent. -/
def tenTo (k : Int) : Rat := (10 : Rat) ^ k

/-! ## §1. Fixed places. -/

/-- A digit string with a point in front of its last `places` digits. -/
def withPoint (places : Nat) (s : List Char) : List Char :=
  let padded := List.replicate (places + 1 - s.length) '0' ++ s
  let whole := padded.take (padded.length - places)
  if places = 0 then whole else whole ++ '.' :: padded.drop (padded.length - places)

/-- A rational with a given number of places after the point. -/
def fixedRat (places : Nat) (q : Rat) : String :=
  let n := roundToEven (magnitude q * tenTo places)
  let body := withPoint places (Nat.toDigits 10 n.natAbs)
  String.ofList (if q < 0 ∧ n ≠ 0 then '-' :: body else body)

/-- The text of a number that is not finite, or else what `text` makes of its value. -/
def textOr (text : Rat → String) : Binary64 → String
  | .nan => "nan"
  | .infinite true => "-inf"
  | .infinite false => "inf"
  | .finite v => text v

/-- A number with a given number of places after the point. -/
def fixed (places : Nat) (x : Binary64) : String := x.textOr (fixedRat places)

/-! ## §2. Shortest digits. -/

/-- The greatest `k` with `10 ^ k ≤ q`, for positive `q`. -/
def decade (q : Rat) : Int :=
  let k : Int := (Nat.toDigits 10 q.num.natAbs).length - (Nat.toDigits 10 q.den).length
  if tenTo k ≤ q then k else k - 1

/-- The point next to positive `q` on the grid of `n` significant digits that reads back as `q`, as
a multiple of the grid's step: the nearer one if both do. -/
def onGrid? (q : Rat) (n : Nat) : Option (Int × Int) :=
  let exponent := decade q - (n - 1)
  let low := (q / tenTo exponent).floor
  let reads (m : Int) : Bool := round (m * tenTo exponent) = .finite q
  let nearer := roundToEven (q / tenTo exponent)
  let other := if nearer = low then low + 1 else low
  if reads nearer then some (nearer, exponent)
  else if reads other then some (other, exponent)
  else none

/-- The most significant digits that a shortest text needs. -/
def mostDigits : Nat := 17

/-- The shortest decimal that reads back as positive `q`: its digits and the exponent of the last
of them. -/
def shortest? (q : Rat) : Option (Int × Int) :=
  (List.range mostDigits).findSome? fun n => onGrid? q (n + 1)

/-- Digits without trailing zeros, and the power of ten of the last one that is left. -/
def trimZeros (s : List Char) (exponent : Int) : List Char × Int :=
  let kept := (s.reverse.dropWhile (· == '0')).reverse
  (kept, exponent + (s.length - kept.length : Nat))

/-- The exponent of a number in scientific notation: a sign and at least two digits. -/
def exponentText (k : Int) : String :=
  let d := digits k.natAbs
  "e" ++ (if k < 0 then "-" else "+") ++ (if d.length < 2 then "0" ++ d else d)

/-- Significant digits `s`, the first of them at the power `lead` of ten, in positional or in
scientific notation. -/
def layout (s : List Char) (lead : Int) : String :=
  if -4 ≤ lead ∧ lead < 16 then
    if lead < 0 then
      "0." ++ String.ofList (List.replicate (-lead - 1).toNat '0' ++ s)
    else
      let whole := lead.toNat + 1
      let padded := s ++ List.replicate (whole + 1 - s.length) '0'
      String.ofList (padded.take whole) ++ "." ++ String.ofList (padded.drop whole)
  else
    match s with
    | [] => exponentText lead
    | [d] => String.ofList [d] ++ exponentText lead
    | d :: rest => String.ofList (d :: '.' :: rest) ++ exponentText lead

/-- The shortest text of a positive rational that is representable. -/
def shortestPositive (q : Rat) : String :=
  let (m, exponent) := (shortest? q).getD (0, 0)
  let (s, last) := trimZeros (Nat.toDigits 10 m.natAbs) exponent
  layout s (last + (s.length : Int) - 1)

/-- The shortest text that reads back as a number. -/
def shortest (x : Binary64) : String :=
  x.textOr fun v =>
    if v = 0 then "0.0"
    else if v < 0 then "-" ++ shortestPositive (-v)
    else shortestPositive v

end SlabWaste.Binary64
