/-
  SlabWaste.Tally.Session
  ───────────────────────
  **TALLIES OF WHOLE TRACES.**

  A session looks at the events of one family and goes on over as many traces and
  single events as it is given.  It names callers by its own resolver; if it has
  none, a trace is read with the symbol table that goes with it, and a single
  event with none.

      Tally.run f t r trace     the tally after a trace, and the resolver after it
      Session.reset s           the session with nothing tallied
-/
import SlabWaste.Report.Account
import SlabWaste.Report.Table
import SlabWaste.Tally.Run
import SlabWaste.Trace.Order

namespace SlabWaste

open SlabWaste.Symbols

/-! ## §1. Traces. -/

/-- Account for a trace: its records in time order, and what it says about lost events. -/
def Tally.run (family : Family) (t : Tally) (r : Resolver) (trace : Trace.Reader) :
    Tally × Resolver :=
  let (t, r) := t.recordAll family r (trace.records.map (·.toRawEvent))
  (t.noteLoss trace.missed trace.lost, r)

/-- The tally of one trace with a symbol table. -/
def Tally.ofTrace (family : Family) (table : Table) (trace : Trace.Reader) : Tally :=
  (Tally.run family {} (.table (.fresh table)) trace).1

/-! ## §2. Results. -/

namespace Tally

/-- The callers in the order of a report, with their waste up to date. -/
def ranked (t : Tally) : List Caller := Report.ranked t.callers.rows

/-- The report of a tally. -/
def report (t : Tally) : Written := Report.write t.ranked t.missed

/-- The account of a tally. -/
def account (t : Tally) : Written := Report.Account.write (.ofTally t) t.ranked

end Tally

/-! ## §3. Sessions. -/

/-- A tally that goes on. -/
structure Session where
  family : Family := .all
  resolver : Option Resolver := none
  tally : Tally := {}

namespace Session

/-- Go on with the session's resolver, or with another one if it has none.  Only its own resolver
is kept. -/
def advance (s : Session) (other : Resolver) (f : Tally → Resolver → Tally × Resolver) : Session :=
  let (tally, resolver) := f s.tally (s.resolver.getD other)
  { s with tally, resolver := s.resolver.map fun _ => resolver }

/-- Account for one event. -/
def process (s : Session) (e : Event) : Session :=
  s.advance .plain fun t r => t.process r e

/-- Account for one written event. -/
def record (s : Session) (raw : RawEvent) : Session :=
  s.advance .plain fun t r => t.record s.family r raw

/-- Account for a trace that goes with a symbol table. -/
def run (s : Session) (table : Table) (trace : Trace.Reader) : Session :=
  s.advance (.table (.fresh table)) fun t r => t.run s.family r trace

/-- Forget all that was tallied. -/
def reset (s : Session) : Session := { s with tally := {} }

/-- Bring the waste of every caller up to date. -/
def settle (s : Session) : Session := { s with tally := s.tally.settle }

end Session

end SlabWaste
