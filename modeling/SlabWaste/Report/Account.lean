/-
  SlabWaste.Report.Account
  ────────────────────────
  **THE ACCOUNT.**

  The account sums a run up: the live bytes of all callers together, how many
  events of each sort there were, and a line for each caller.
-/
import SlabWaste.Report.Written
import SlabWaste.Tally.Run

namespace SlabWaste.Report.Account

open SlabWaste.Numeral

/-- The width of the figures of the summary. -/
def summaryWidth : Nat := 10

/-- The width of byte counts in the line of a caller. -/
def byteWidth : Nat := 8

/-- The width of event counts in the line of a caller. -/
def countWidth : Nat := 5

/-- A line of the summary. -/
def item (title : String) (n : Int) : Except Numeral.Fault String := do
  return title ++ padLeft summaryWidth (← decimal n) ++ "\n"

/-- The live bytes of all callers together. -/
def live (callers : List Caller) : Bytes := (callers.map (·.usage.current)).foldl (· + ·) {}

/-- The counts of events that an account shows. -/
structure Counts where
  allocations : Int := 0
  releases : Int := 0
  unknown : Int := 0
  malformed : Int := 0
  deriving DecidableEq, Repr

/-- The counts of a tally. -/
def Counts.ofTally (t : Tally) : Counts := ⟨t.allocations, t.releases, t.unknown, t.malformed⟩

/-- The summary. -/
def summary (counts : Counts) (callers : List Caller) : List (Except Numeral.Fault String) :=
  let live := live callers
  [ item "current bytes allocated: " live.granted,
    item "current bytes requested: " live.requested,
    item "current wasted bytes:    " live.waste,
    item "number of allocs:        " counts.allocations,
    item "number of frees:         " counts.releases,
    item "number of lost frees:    " counts.unknown,
    item "number of malformed:     " counts.malformed,
    item "number of callers:       " callers.length,
    .ok "\n",
    .ok "   total    waste      net alloc/free  caller\n",
    .ok "---------------------------------------------\n" ]

/-- The line of a caller. -/
def row (c : Caller) : Except Numeral.Fault String := do
  let u := c.usage
  let total ← decimal u.total.granted
  let waste ← decimal u.waste
  let net ← decimal u.current.granted
  let allocations ← decimal u.allocations
  let releases ← decimal u.releases
  return padLeft byteWidth total ++ " " ++ padLeft byteWidth waste ++ " "
    ++ padLeft byteWidth net ++ " " ++ padLeft countWidth allocations ++ "/"
    ++ padRight countWidth releases ++ " " ++ c.name ++ "\n"

/-- The account of callers in a given order. -/
def write (counts : Counts) (callers : List Caller) : Written :=
  .ofPieces (summary counts callers ++ callers.map row)

end SlabWaste.Report.Account
