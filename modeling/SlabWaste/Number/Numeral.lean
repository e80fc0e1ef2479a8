/-
  SlabWaste.Number.Numeral
  ────────────────────────
  **WHOLE NUMBERS AS TEXT.**

  Reading.  A number is written with an optional sign and the digits of any
  script, in base ten or sixteen; a single low line may stand between two digits,
  blanks may surround the whole, and base sixteen may be marked by 0x.

      read radix text      the number, or why `text` is none
      ofDigits digits      the number that a run of decimal digits denotes

  Printing.

      hex n                0x and lower-case digits, for every integer
      decimal n            decimal digits, for every integer short enough

  **The length limit.**  Decimal numbers, read or printed, have at most
  `digitLimit` digits.  Hexadecimal ones may be of any length.
-/
import SlabWaste.Text.Blank
import SlabWaste.Text.Digit
import SlabWaste.Text.Quoted

namespace SlabWaste

/-- The two bases in which numbers are written. -/
inductive Radix where
  | ten
  | sixteen
  deriving DecidableEq, Repr

/-- The base itself. -/
def Radix.toNat : Radix → Nat
  | .ten => 10
  | .sixteen => 16

namespace Numeral

open SlabWaste.Text

/-! ## §1. What can be wrong with a number. -/

/-- Why a number cannot be read or printed. -/
inductive Fault where
  /-- The text is not a number in that base. -/
  | malformed (radix : Radix) (text : String)
  /-- The number has too many decimal digits. -/
  | tooLong (digits : Nat)
  deriving DecidableEq, Repr

/-- The most decimal digits that a number may have. -/
def digitLimit : Nat := 4300

/-- How much of a malformed text is shown. -/
def shownLimit : Nat := 200

/-- The wording of a fault. -/
def Fault.message : Fault → String
  | .malformed radix text =>
      s!"invalid literal for int() with base {radix.toNat}: "
        ++ String.ofList ((quote text.toList).take shownLimit)
  | .tooLong digits =>
      s!"Exceeds the limit ({digitLimit} digits) for integer string conversion: "
        ++ s!"value has {digits} digits; "
        ++ "use sys.set_int_max_str_digits() to increase the limit"

/-! ## §2. Digits. -/

/-- The value of a digit in a base: the decimal digits of every script, then the letters a to f
in either case. -/
def digit? (radix : Radix) (c : Char) : Option Nat :=
  match digitValue? c, radix with
  | some d, _ => some d
  | none, .ten => none
  | none, .sixteen =>
      if 'a' ≤ c ∧ c ≤ 'f' then some (c.toNat - 87)
      else if 'A' ≤ c ∧ c ≤ 'F' then some (c.toNat - 55)
      else none

/-- The number that a list of digit values denotes, most significant first. -/
def value (radix : Radix) (digits : List Nat) : Nat :=
  digits.foldl (fun n d => n * radix.toNat + d) 0

/-- The number that a run of decimal digits denotes, unless the run is too long. -/
def ofDigits (digits : List Nat) : Except Fault Nat :=
  if digitLimit < digits.length then .error (.tooLong digits.length)
  else .ok (value .ten digits)

/-- A run of digits in which a single low line may stand between two: the values of its digits and
what follows it.  `sought` says that a digit has to come next; `found` holds the values so far,
last first. -/
def digitRun (radix : Radix) (sought : Bool) (found : List Nat) :
    List Char → Option (List Nat × List Char)
  | [] => if sought then none else some (found.reverse, [])
  | c :: s =>
      if c = '_' then
        if sought then none else digitRun radix true found s
      else match digit? radix c with
        | some d => digitRun radix false (d :: found) s
        | none => if sought then none else some (found.reverse, c :: s)

/-! ## §3. Reading. -/

/-- A blank that may surround a number: of the ASCII ones, the space and the controls from tab to
carriage return only. -/
def isPad (c : Char) : Bool :=
  if c.toNat < 128 then (9 ≤ c.toNat && c.toNat ≤ 13) || c == ' ' else isBlank c

/-- The sign in front of a number, and the rest. -/
def sign : List Char → Bool × List Char
  | '-' :: s => (true, s)
  | '+' :: s => (false, s)
  | s => (false, s)

/-- The text after the mark of base sixteen, if the base is sixteen and the mark is there; a low
line may follow the mark. -/
def dropMark (radix : Radix) : List Char → List Char
  | z :: x :: s =>
      if radix = .sixteen ∧ digitValue? z = some 0 ∧ (x = 'x' ∨ x = 'X') then
        match s with
        | '_' :: t => t
        | t => t
      else z :: x :: s
  | s => s

/-- The number that a text denotes in a base. -/
def read (radix : Radix) (text : String) : Except Fault Int :=
  let (negative, s) := sign (text.toList.dropWhile isPad)
  match digitRun radix true [] (dropMark radix s) with
  | none => .error (.malformed radix text)
  | some (digits, rest) =>
      if radix = .ten ∧ digitLimit < digits.length then .error (.tooLong digits.length)
      else if rest.all isPad then
        .ok (if negative then -(value radix digits : Int) else value radix digits)
      else .error (.malformed radix text)

/-! ## §4. Printing. -/

/-- A sign in front of the digits of a magnitude. -/
def signed (n : Int) (digits : String) : String := if n < 0 then "-" ++ digits else digits

/-- An integer in lower-case hexadecimal, marked by 0x; a sign stands after the mark. -/
def hex (n : Int) : String :=
  "0x" ++ signed n (String.ofList (Nat.toDigits 16 n.natAbs))

/-- The least number that has too many digits. -/
def decimalBound : Nat := Nat.pow 10 digitLimit

/-- The decimal digits of a natural number. -/
def digits (n : Nat) : String := String.ofList (Nat.toDigits 10 n)

/-- An integer in decimal, unless it has too many digits. -/
def decimal (n : Int) : Except Fault String :=
  if n.natAbs < decimalBound then .ok (signed n (digits n.natAbs))
  else .error (.tooLong (digits n.natAbs).length)

/-- Blanks in front of a text that is narrower than `width`. -/
def padLeft (width : Nat) (s : String) : String :=
  String.ofList (List.replicate (width - s.length) ' ') ++ s

/-- Blanks after a text that is narrower than `width`. -/
def padRight (width : Nat) (s : String) : String :=
  s ++ String.ofList (List.replicate (width - s.length) ' ')

end Numeral

end SlabWaste
