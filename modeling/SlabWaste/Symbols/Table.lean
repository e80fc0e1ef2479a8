/-
  SlabWaste.Symbols.Table
  ───────────────────────
  **THE KERNEL'S SYMBOL TABLE.**

  A symbol map lists one symbol a line: an address in hexadecimal, a type and a
  name.  Only code can be a call site, so only lines with a code type count; any
  other line is passed over.

      Table.ofText text      the code symbols of a map, by address and then name
      Table.lookup table a   the last symbol at or below `a`, for `a` between the
                             first and the last address of the table
-/
import SlabWaste.Event.CallSite
import SlabWaste.Text.Blank
import SlabWaste.Text.Lines
import SlabWaste.Text.Utf8

namespace SlabWaste.Symbols

/-! ## §1. Symbols. -/

/-- A name and where it begins. -/
structure Symbol where
  address : Int
  name : String
  deriving DecidableEq, Repr

/-- The order of a table: by address, then by name. -/
def Symbol.le (a b : Symbol) : Bool :=
  a.address < b.address || (a.address == b.address && a.name ≤ b.name)

/-- The letters that mark code, in the order in which several of them may stand together. -/
def codeTypes : List Char := ['t', 'T', 'w', 'W']

/-- The text `s` appears in `t` without a gap. -/
def appearsIn (s : List Char) : List Char → Bool
  | [] => s.isEmpty
  | c :: t => s.isPrefixOf (c :: t) || appearsIn s t

/-- The symbol of one line of a map, if it has one. -/
def Symbol.ofLine? (line : List Char) : Option Symbol :=
  match Text.words line with
  | address :: type :: name :: _ =>
      if appearsIn type codeTypes then
        match Numeral.read .sixteen (String.ofList address) with
        | .ok a => some ⟨a, String.ofList (dropDot name)⟩
        | .error _ => none
      else none
  | _ => none

/-! ## §2. Tables. -/

/-- Symbols in ascending order. -/
structure Table where
  symbols : Array Symbol := #[]
  deriving DecidableEq, Repr

namespace Table

/-- A table of the given symbols. -/
def ofSymbols (symbols : List Symbol) : Table := ⟨(symbols.mergeSort Symbol.le).toArray⟩

/-- The table of a map. -/
def ofText (text : List Char) : Table :=
  ofSymbols ((Text.lines text).filterMap Symbol.ofLine?)

/-- The table of a map as bytes, if they are UTF-8. -/
def ofBytes? (bytes : List UInt8) : Option Table := (Text.Utf8.decode? bytes).map ofText

/-- The number of symbols. -/
def size (t : Table) : Nat := t.symbols.size

/-- The symbol at index `i` lies at or below an address. -/
def atOrBelow (t : Table) (a : Int) (i : Nat) : Bool :=
  match t.symbols[i]? with
  | some s => s.address ≤ a
  | none => false

/-- How many of the symbols from `low` up to `high` (excluded) lie at or below an address, plus
`low`, by halving the range. -/
def countBelow (t : Table) (a : Int) (low high : Nat) : Nat :=
  if _h : low < high then
    let middle := (low + high) / 2
    if t.atOrBelow a middle then countBelow t a (middle + 1) high
    else countBelow t a low middle
  else low
termination_by high - low

/-- An address lies between the first and the last symbol. -/
def covers (t : Table) (a : Int) : Bool :=
  match t.symbols[0]?, t.symbols.back? with
  | some first, some last => first.address ≤ a && a ≤ last.address
  | _, _ => false

/-- The name of the last symbol at or below an address that the table covers. -/
def lookup (t : Table) (a : Int) : Option String :=
  if t.covers a then (t.symbols[t.countBelow a 0 t.size - 1]?).map (·.name) else none

/-- The caller behind a call site: the symbol that covers its address, or else its own name. -/
def caller (t : Table) (site : CallSite) : String :=
  (site.address?.bind t.lookup).getD site.caller

end Table

end SlabWaste.Symbols
