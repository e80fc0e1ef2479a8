/-
  SlabWaste.Symbols.Load
  ──────────────────────
  **LOADING A SYMBOL MAP.**

  A map is read whole or not at all: if its file cannot be opened or is not UTF-8,
  there is no table.
-/
import SlabWaste.Fault
import SlabWaste.Symbols.Memo

namespace SlabWaste.Symbols

/-- The table of a map file. -/
def load (fs : FileSystem) (path : String) : Except Fault Table :=
  match fs.read path with
  | .error why => .error (.ofOpening (.cannotReadMap path) why)
  | .ok bytes =>
      match Table.ofBytes? bytes with
      | some table => .ok table
      | none => .error (.notUtf8 path)

/-- Put the table of another map in place of the present one, and forget the answers given so far
with it.  If there is no such table, all stays as it is. -/
def Memo.reload (m : Memo) (fs : FileSystem) (path : String) : Except Fault Unit × Memo :=
  match load fs path with
  | .ok table => (.ok (), .fresh table)
  | .error fault => (.error fault, m)

end SlabWaste.Symbols
