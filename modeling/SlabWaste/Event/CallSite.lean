/-
  SlabWaste.Event.CallSite
  ────────────────────────
  **CALL SITES AND THE CALLERS BEHIND THEM.**

  A call site is given as text or as an address.  Text that is all hexadecimal
  digits is an address too.  Without a symbol table a caller is called

      an address       by its canonical hexadecimal text
      anything else    by the text before the first plus sign, less one leading
                       full stop

  so an address has one name, however it was written.
-/
import SlabWaste.Number.Numeral

namespace SlabWaste

/-- The place in the kernel that asked for memory. -/
inductive CallSite where
  | text (s : String)
  | address (n : Int)
  deriving DecidableEq, Repr

/-! ## §1. Addresses in hexadecimal. -/

/-- The value of an ASCII hexadecimal digit. -/
def hexDigit? (c : Char) : Option Nat :=
  if c.toNat < 128 then Numeral.digit? .sixteen c else none

/-- The digits of a hexadecimal text: all of it, less a mark in front and one line feed at the
end. -/
def hexBody (s : List Char) : List Char :=
  let s := if s.getLast? = some '\n' then s.dropLast else s
  match s with
  | '0' :: 'x' :: digits => digits
  | digits => digits

/-- The number that a hexadecimal text denotes. -/
def hexText? (s : List Char) : Option Nat :=
  let body := hexBody s
  if body.isEmpty then none
  else (body.mapM hexDigit?).map (Numeral.value .sixteen)

/-! ## §2. Names. -/

/-- A name without one leading full stop. -/
def dropDot : List Char → List Char
  | '.' :: s => s
  | s => s

namespace CallSite

/-- The address that a call site denotes, if it denotes one. -/
def address? : CallSite → Option Int
  | .text s => (hexText? s.toList).map Int.ofNat
  | .address n => some n

/-- The name before the offset of a symbolic call site. -/
def symbolic (s : String) : String :=
  String.ofList (dropDot (s.toList.takeWhile (· != '+')))

/-- The caller behind a call site, without a symbol table. -/
def caller : CallSite → String
  | .address n => Numeral.hex n
  | .text s =>
      match hexText? s.toList with
      | some n => Numeral.hex n
      | none => symbolic s

end CallSite

end SlabWaste
