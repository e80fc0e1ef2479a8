/-
  SlabWaste.Trace.Order
  ─────────────────────
  **ONE STREAM IN TIME ORDER.**

  The records of one CPU stand in its stream in file order.  The stream of the
  trace is made from those of the CPUs by taking, again and again, the record
  that comes first among the heads: the earlier one, and of equal times the one
  that stands first in the file.

      Reader.stream r c     the records of one CPU
      Reader.records r      the records of the trace
-/
import SlabWaste.Trace.Reader

namespace SlabWaste

/-- A record comes no later than another: it is earlier, or as early and not behind it in the
file. -/
def Record.before (a b : Record) : Bool :=
  if a.timestamp = b.timestamp then a.seq ≤ b.seq else a.timestamp.le b.timestamp

namespace Trace.Reader

/-- The CPUs that kept records came from, ascending. -/
def cpus (r : Reader) : List Nat :=
  (r.kept.map (·.cpu)).eraseDups.mergeSort fun a b => decide (a ≤ b)

/-- The kept records of one CPU, in file order. -/
def stream (r : Reader) (cpu : Nat) : List Record := r.inFileOrder.filter (·.cpu == cpu)

/-- The streams of the CPUs. -/
def streams (r : Reader) : List (List Record) := r.cpus.map r.stream

/-- The kept records in one stream. -/
def records (r : Reader) : List Record :=
  r.streams.foldr (fun s merged => s.merge merged Record.before) []

end Trace.Reader

end SlabWaste
