/-
  SlabWaste.Fault
  ───────────────
  **WHAT CAN GO WRONG.**

  A refusal is the planned end of a run: its input is not what it has to be, and
  the user is told.  Any other fault is data that no run can digest, such as a
  number beyond every limit; it ends the run as it stands.
-/
import SlabWaste.Files
import SlabWaste.Number.Numeral

namespace SlabWaste

/-! ## §1. Refusals. -/

/-- Why an input is refused. -/
inductive Refusal where
  | cannotReadMap (path : String) (why : FileFault)
  | cannotOpen (path : String) (why : FileFault)
  /-- The trace is a binary capture, not text. -/
  | binary (path : String)
  | noRecords (path : String)
  /-- The trace was written by a tracer whose lines have another form. -/
  | latencyTracer (tracer : String)
  /-- The first record of the trace does not say what happened. -/
  | missingType (line : String)
  deriving DecidableEq, Repr

/-- What the user is told. -/
def Refusal.message : Refusal → String
  | .cannotReadMap path why => s!"Cannot read map file {path}: {why.message}"
  | .cannotOpen path why => s!"can't open {path}: {why.message}"
  | .binary path =>
      s!"{path} is a binary trace-cmd file, run 'trace-cmd report' on it first"
  | .noRecords path => s!"No records found in file {path}"
  | .latencyTracer tracer => s!"trace-mem does not work with latency traces ({tracer})"
  | .missingType line => s!"Can't find a 'type' field? in {line}"

/-! ## §2. Faults. -/

/-- Why a computation has no result. -/
inductive Fault where
  | refused (why : Refusal)
  /-- A number cannot be read or printed. -/
  | number (fault : Numeral.Fault)
  /-- A symbol map is not UTF-8. -/
  | notUtf8 (path : String)
  /-- A path that no file can have. -/
  | badPath
  /-- A file cannot be written. -/
  | cannotWrite (why : FileFault)
  | unknownFamily (name : String)
  | unknownMeasure (name : String)
  /-- A number is too large for floating point. -/
  | overflow
  /-- An angle is not a finite number. -/
  | notFinite
  /-- A number of places that no number can have. -/
  | badPlaces
  deriving DecidableEq, Repr

namespace Fault

/-- The fault of a file that cannot be opened: a refusal, unless the path is none. -/
def ofOpening (refuse : FileFault → Refusal) : FileFault → Fault
  | .nulInPath => .badPath
  | why => .refused (refuse why)

/-- The fault of a file that cannot be written. -/
def ofWriting : FileFault → Fault
  | .nulInPath => .badPath
  | why => .cannotWrite why

/-- The wording of a fault. -/
def message : Fault → String
  | .refused why => why.message
  | .number fault => fault.message
  | .notUtf8 path => s!"{path} is not UTF-8"
  | .badPath => FileFault.nulInPath.message
  | .cannotWrite why => why.message
  | .unknownFamily name => s!"unknown event family '{name}'"
  | .unknownMeasure name => s!"can't draw rings for '{name}'"
  | .overflow => "a number is too large for floating point"
  | .notFinite => "an angle is not finite"
  | .badPlaces => "a number of places is out of range"

end Fault

/-! ## §3. Computations in parts. -/

variable {ε α β : Type} {x : Except ε α}

theorem map_eq_ok {f : α → β} {b : β} (h : x.map f = .ok b) : ∃ a, x = .ok a ∧ f a = b := by
  cases x with
  | error why => cases h
  | ok a =>
      injection h with h
      exact ⟨a, rfl, h⟩

theorem bind_eq_ok {next : α → Except ε β} {b : β} (h : (x >>= next) = .ok b) :
    ∃ a, x = .ok a ∧ next a = .ok b := by
  cases x with
  | error why => cases h
  | ok a => exact ⟨a, rfl, h⟩

theorem bind_eq_error {next : α → Except ε β} {why : ε} (h : (x >>= next) = .error why) :
    x = .error why ∨ ∃ a, x = .ok a ∧ next a = .error why := by
  cases x with
  | error own =>
      injection h with h
      exact Or.inl (congrArg Except.error h)
  | ok a => exact Or.inr ⟨a, rfl, h⟩

end SlabWaste
