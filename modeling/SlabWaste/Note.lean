/-
  SlabWaste.Note
  ──────────────
  **DIAGNOSTICS.**

  While it works, a run notes what it does and what it finds odd.  A note is data;
  its level decides who sees it, and its text is made only then.
-/
import SlabWaste.Event.Record
import SlabWaste.Number.Decimal

namespace SlabWaste

/-- How much a note matters. -/
inductive Level where
  | debug
  | info
  | warning
  deriving DecidableEq, Repr

/-- The name of a level. -/
def Level.name : Level → String
  | .debug => "DEBUG"
  | .info => "INFO"
  | .warning => "WARNING"

/-- Something that a run reports besides its result. -/
inductive Note where
  | symbolsRead (count : Nat) (path : String)
  | namelessRecord (line : String)
  | traceRead (seen kept cpus : Nat) (path : String)
  | filtering (family : Family)
  | malformed (event : String) (timestamp : Binary64) (why : Malformed)
  | duplicateAddress (address : Int) (caller : String)
  | missedEvents (lost : Nat)
  | processed (records allocations releases unknown malformed callers : Nat)
  | writingAccount (path : String)
  | plottingTo (path : String)
  | plottingOnScreen
  | nothingToPlot (measure : String)
  deriving DecidableEq, Repr

/-- What is wrong with an event, with the kind of fault in front. -/
def Malformed.describe : Malformed → String
  | .missing field => s!"KeyError({String.ofList (Text.quote field.toList)})"
  | .notNumber fault => s!"ValueError({String.ofList (Text.quote fault.message.toList)})"

namespace Note

/-- The level of a note. -/
def level : Note → Level
  | .processed .. | .writingAccount _ | .plottingTo _ | .plottingOnScreen => .info
  | .missedEvents _ | .nothingToPlot _ => .warning
  | _ => .debug

/-- The wording of a note. -/
def message : Note → String
  | .symbolsRead count path => s!"Read {count} symbols from {path}"
  | .namelessRecord line => s!"Skipping record without event name: {line}"
  | .traceRead seen kept cpus path =>
      s!"Read {seen} records, kept {kept} on {cpus} cpus from {path}"
  | .filtering family => s!"Filtering {family.name} events"
  | .malformed event timestamp why =>
      s!"Skipping malformed {event} record at {timestamp.shortest}: {why.describe}"
  | .duplicateAddress address caller =>
      s!"Duplicate pointer {Numeral.hex address} from {caller}"
  | .missedEvents lost =>
      s!"Trace has missed events ({Numeral.digits lost} lost), numbers may be off"
  | .processed records allocations releases unknown broken callers =>
      s!"Processed {records} records: {allocations} allocs, {releases} frees ({unknown} unknown), "
        ++ s!"{broken} malformed, {callers} callers"
  | .writingAccount path => s!"Creating account file at {path}"
  | .plottingTo path => s!"Plotting to file '{path}'"
  | .plottingOnScreen => "Plotting interactive"
  | .nothingToPlot measure => s!"Nothing to plot for '{measure}'"

/-- A note as a line of its own. -/
def line (n : Note) : String := s!"[{n.level.name}] {n.message}\n"

/-- The notes that are shown: all of them, or those of the highest level only. -/
def shown (verbose : Bool) (notes : List Note) : List Note :=
  notes.filter fun n => verbose || n.level == .warning

end Note

end SlabWaste
