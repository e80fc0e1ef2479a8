/-
  SlabWaste.CommandLine.Options
  ─────────────────────────────
  **WHAT A RUN IS ASKED TO DO.**

  The settings of a command line are gathered, a later one in place of an earlier
  one, and then checked: there is at most one input, at most one family, and the
  measure of the chart is one that there is.

      parse argv      the options of a run, or why there is none
-/
import SlabWaste.CommandLine.Argument
import SlabWaste.Event.Kind
import SlabWaste.Ring.Section

namespace SlabWaste.CommandLine

open SlabWaste.Ring

/-! ## §1. Gathering. -/

/-- The settings of a command line, gathered but not checked. -/
structure Gathered where
  inputs : List String := []
  positionals : List String := []
  mapFile : String := ""
  malloc : Bool := false
  cache : Bool := false
  accountFile : String := ""
  ringsFile : String := ""
  ringsShow : Bool := false
  measure : String := "current_alloc"
  verbose : Bool := false
  deriving DecidableEq, Repr

namespace Gathered

/-- Take over one setting. -/
def add (g : Gathered) : Setting → Gathered
  | .positional text => { g with positionals := g.positionals ++ [text] }
  | .value .input text => { g with inputs := g.inputs ++ [text] }
  | .value .map text => { g with mapFile := text }
  | .value .accountFile text => { g with accountFile := text }
  | .value .ringsFile text => { g with ringsFile := text }
  | .value .ringsMeasure text => { g with measure := text }
  | .flag .malloc => { g with malloc := true }
  | .flag .cache => { g with cache := true }
  | .flag .ringsShow => { g with ringsShow := true }
  | .flag .verbose => { g with verbose := true }
  | _ => g

/-- Take over settings in order. -/
def ofSettings (settings : List Setting) : Gathered := settings.foldl add {}

end Gathered

/-! ## §2. Options. -/

/-- The trace that is read if none is named. -/
def defaultInput : String := "trace.log"

/-- The options of a run. -/
structure Options extends Gathered where
  inputFile : String
  family : Family
  chart : Measure
  deriving DecidableEq, Repr

namespace Gathered

/-- The one input, if there are not several. -/
def input (g : Gathered) : Except UsageFault String :=
  match g.inputs, g.positionals with
  | _ :: _ :: _, _ => .error .severalInputs
  | [_], _ :: _ => .error .inputGivenTwice
  | [], _ :: _ :: _ => .error .severalInputs
  | [file], [] => .ok file
  | [], [file] => .ok file
  | [], [] => .ok defaultInput

/-- The one family, if not both are asked for. -/
def family (g : Gathered) : Except UsageFault Family :=
  match g.malloc, g.cache with
  | true, true => .error .familyGivenTwice
  | true, false => .ok .malloc
  | false, true => .ok .cache
  | false, false => .ok .all

/-- The measure that the chart shows. -/
def chart (g : Gathered) : Except UsageFault Measure :=
  match Measure.ofName? g.measure with
  | some m => .ok m
  | none => .error (.unknownMeasure g.measure)

/-- The options of a run, if the settings fit together. -/
def check (g : Gathered) : Except UsageFault Options := do
  let inputFile ← g.input
  let family ← g.family
  let chart ← g.chart
  return { g with inputFile, family, chart }

theorem check_eq_ok_iff {g : Gathered} {options : Options} :
    g.check = .ok options
      ↔ options.toGathered = g ∧ g.input = .ok options.inputFile ∧ g.family = .ok options.family
        ∧ g.chart = .ok options.chart := by
  unfold check
  constructor
  · intro h
    obtain ⟨inputFile, hinput, h⟩ := bind_eq_ok h
    obtain ⟨family, hfamily, h⟩ := bind_eq_ok h
    obtain ⟨chart, hchart, h⟩ := bind_eq_ok h
    injection h with h
    rw [← h]
    exact ⟨rfl, hinput, hfamily, hchart⟩
  · rintro ⟨rfl, hinput, hfamily, hchart⟩
    rw [hinput, hfamily, hchart]
    rfl

end Gathered

/-- The options that a command line asks for. -/
def parse (argv : List String) : Except Stop Options := do
  let settings ← scan argv
  (Gathered.ofSettings settings).check.mapError .usage

/-! ## §3. Texts. -/

/-- The name of the program. -/
def programName : String := "trace-mem"

/-- How the program is called. -/
def usageText : String := s!"Usage: {programName} [options] [input-file]\n"

/-- The help text. -/
def helpText : String :=
  usageText ++ "
Show kernel slab waste per call site from a kmem event trace.

Options:
  -h, --help            show this help message and exit
  -i INPUTS, --input=INPUTS
                        trace file to analyze [default: trace.log]
  -m MAP_FILE, --map=MAP_FILE
                        System.map used to resolve numeric call sites
  --malloc              trace kmalloc/kfree only
  --cache               trace kmem_cache_alloc/kmem_cache_free only
  -c ACCOUNT_FILE, --account-file=ACCOUNT_FILE
                        write a slab accounting summary to this file
  -r RINGS_FILE, --rings-file=RINGS_FILE
                        plot ringchart to this file
  --rings-show          show interactive ringchart
  -a RINGS_ATTR, --rings-attr=RINGS_ATTR
                        attribute to visualize [current_alloc, max_alloc,
                        total_alloc, waste]
  -v, --verbose         print debugging messages
"

/-- What a command line that stops early writes to the standard output. -/
def Stop.output : Stop → String
  | .help => helpText
  | .usage _ => ""

/-- What a command line that stops early writes to the standard error. -/
def Stop.errorOutput : Stop → String
  | .help => ""
  | .usage fault => s!"{usageText}\n{programName}: error: {fault.message}\n"

/-- The exit code of a command line that stops early. -/
def Stop.code : Stop → Nat
  | .help => 0
  | .usage _ => 2

end SlabWaste.CommandLine
