/-
  SlabWaste.Diagnostics
  ─────────────────────
  **WHAT A RUN NOTES ON ITS WAY.**

  Notes are read off the steps of a run and take no part in them: each is a
  function of the state before a step and of what the step is given.
-/
import SlabWaste.Note
import SlabWaste.Tally.Session

namespace SlabWaste

open SlabWaste.Symbols

/-! ## §1. Reading a trace. -/

namespace Trace.Reader

/-- The note on a line. -/
def note? (r : Reader) : Line → Option Note
  | .nameless bare shown => if r.seen = 0 ∧ bare then none else some (.namelessRecord shown)
  | _ => none

/-- The notes on lines, up to the one that stops the reading. -/
def notes (r : Reader) : List Line → List Note
  | [] => []
  | line :: rest =>
      match r.step line with
      | (_, .error _) => []
      | (next, .ok _) => (r.note? line).toList ++ notes next rest

/-- The note on a trace that was read. -/
def summary (r : Reader) (path : String) : Note :=
  .traceRead r.seen r.kept.length r.cpus.length path

end Trace.Reader

/-! ## §2. Tallying. -/

namespace Tally

/-- The note on a record: it cannot be read, or it allocates where something lives already. -/
def note? (family : Family) (t : Tally) (r : Resolver) (record : Record) : Option Note :=
  match interpret family record.toRawEvent with
  | .malformed why => some (.malformed record.event record.timestamp why)
  | .event (.allocate address site _) =>
      if t.heap.contains address then some (.duplicateAddress address (r.caller site).1) else none
  | _ => none

/-- The notes on records in order. -/
def notes (family : Family) (t : Tally) (r : Resolver) : List Record → List Note
  | [] => []
  | record :: rest =>
      let (next, resolver) := t.record family r record.toRawEvent
      (t.note? family r record).toList ++ notes family next resolver rest

/-- The notes at the end of a trace. -/
def closing (t : Tally) (trace : Trace.Reader) : List Note :=
  (if trace.missed then [.missedEvents trace.lost] else [])
    ++ [.processed t.records t.allocations t.releases t.unknown t.malformed t.callers.size]

end Tally

end SlabWaste
