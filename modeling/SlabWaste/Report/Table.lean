/-
  SlabWaste.Report.Table
  ──────────────────────
  **THE REPORT.**

  The report lists the callers, the most wasteful first and those of equal waste
  by name, with a row of figures for each.  It ends with a warning if the trace
  had lost events.
-/
import SlabWaste.Report.Written
import SlabWaste.Tally.Usage

namespace SlabWaste.Report

open SlabWaste.Numeral

/-! ## §1. Order. -/

/-- A caller comes no later in a report than another. -/
def precedes (a b : Caller) : Bool :=
  b.usage.waste < a.usage.waste || (a.usage.waste == b.usage.waste && a.name ≤ b.name)

/-- Callers in the order of a report, by their waste as it stands. -/
def sort (callers : List Caller) : List Caller := callers.mergeSort precedes

/-- Callers with their waste brought up to date, in the order of a report. -/
def ranked (callers : List Caller) : List Caller := sort (callers.map Caller.settle)

/-! ## §2. Text. -/

/-- The titles of the columns. -/
def header : String :=
  "                Function            \t"
    ++ "Waste\tAlloc\treq\t\tTotAlloc     TotReq\t\tMaxAlloc     MaxReq\tMaxWaste"

/-- The line under the titles. -/
def rule : String :=
  "                --------            \t"
    ++ "-----\t-----\t---\t\t--------     ------\t\t--------     ------\t--------"

/-- The line that warns of lost events, after an empty one. -/
def warning : String :=
  "\n[WARNING] events were lost while tracing, figures are incomplete\n"

/-- The width of the names. -/
def nameWidth : Nat := 32

/-- The width of total and peak figures. -/
def figureWidth : Nat := 8

/-- A figure, padded to a width. -/
def figure (width : Nat) (n : Int) : Except Numeral.Fault String := (padLeft width) <$> decimal n

/-- The row of a caller, unless one of its figures is too long to print. -/
def row (c : Caller) : Except Numeral.Fault String := do
  let u := c.usage
  let waste ← decimal u.waste
  let granted ← decimal u.current.granted
  let requested ← decimal u.current.requested
  let totalGranted ← figure figureWidth u.total.granted
  let totalRequested ← figure figureWidth u.total.requested
  let peakGranted ← figure figureWidth u.peak.granted
  let peakRequested ← figure figureWidth u.peak.requested
  let peakWaste ← decimal u.peakWaste
  return padLeft nameWidth c.name ++ "\t" ++ waste ++ "\t" ++ granted ++ "\t" ++ requested
    ++ "\t\t" ++ totalGranted ++ "   " ++ totalRequested
    ++ "\t\t" ++ peakGranted ++ "   " ++ peakRequested ++ "\t" ++ peakWaste ++ "\n"

/-- The report on callers in a given order. -/
def write (callers : List Caller) (missed : Bool) : Written :=
  let heading : List (Except Numeral.Fault String) := [.ok (header ++ "\n"), .ok (rule ++ "\n")]
  let closing : List (Except Numeral.Fault String) := if missed then [.ok warning] else []
  .ofPieces (heading ++ callers.map row ++ closing)

end SlabWaste.Report
