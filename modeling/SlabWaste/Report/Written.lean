/-
  SlabWaste.Report.Written
  ────────────────────────
  **OUTPUT THAT MAY BE CUT SHORT.**

  A text is written piece by piece.  A piece that cannot be made ends the
  writing; what was written before it stays.
-/
import SlabWaste.Fault

namespace SlabWaste

/-- What was written, and what cut it short, if anything did. -/
structure Written where
  text : String
  cut : Option Fault := none
  deriving DecidableEq, Repr

namespace Written

/-- A piece in front of what is written after it. -/
def andThen (piece : String) (w : Written) : Written := { w with text := piece ++ w.text }

/-- Write pieces up to the first that cannot be made. -/
def ofPieces : List (Except Numeral.Fault String) → Written
  | [] => ⟨"", none⟩
  | .ok piece :: rest => andThen piece (ofPieces rest)
  | .error fault :: _ => ⟨"", some (.number fault)⟩

/-- The text, if nothing cut it short. -/
def complete (w : Written) : Except Fault String :=
  match w.cut with
  | none => .ok w.text
  | some fault => .error fault

end Written

end SlabWaste
