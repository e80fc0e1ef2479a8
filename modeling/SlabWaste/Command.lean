/-
  SlabWaste.Command
  ─────────────────
  **THE COMMAND.**

  A run reads the symbol map and the trace that it is asked to read, tallies the
  events of its family, writes the report to the standard output, and then, if
  asked to, an account to a file and a chart.

      run fs argv lib      all that a run does, given the files that it can see
                           and the library that draws

  A run that cannot go on keeps what it has written until then.  If its input is
  refused it says so and exits with 1; any other fault is its ending.
-/
import SlabWaste.CommandLine.Options
import SlabWaste.Diagnostics
import SlabWaste.Ring.Drawing
import SlabWaste.Symbols.Load

namespace SlabWaste.Command

open SlabWaste.CommandLine
open SlabWaste.Ring
open SlabWaste.Symbols

/-! ## §1. Outcomes. -/

/-- How a run ends. -/
inductive Ending where
  | exit (code : Nat)
  | fault (why : Fault)
  deriving DecidableEq, Repr

/-- All that a run does. -/
structure Outcome where
  ending : Ending := .exit 0
  output : String := ""
  errorOutput : String := ""
  /-- The files written, with their texts. -/
  files : List (String × String) := []
  /-- The figures, each as far as it was made. -/
  plots : List Plot := []
  deriving DecidableEq, Repr

namespace Outcome

/-- Say something on the standard error. -/
def say (o : Outcome) (text : String) : Outcome := { o with errorOutput := o.errorOutput ++ text }

/-- Show the notes that are to be shown. -/
def note (o : Outcome) (verbose : Bool) (notes : List Note) : Outcome :=
  o.say (String.join ((Note.shown verbose notes).map Note.line))

/-- End with a fault; a refusal is told to the user instead. -/
def fail (o : Outcome) : Fault → Outcome
  | .refused why =>
      { o.say s!"{programName}: {why.message}\n" with ending := .exit 1 }
  | why => { o with ending := .fault why }

/-- End with a fault if there is one. -/
def failIf (o : Outcome) : Option Fault → Outcome
  | some why => o.fail why
  | none => o

/-- Go on with a run that has not come to an end. -/
def andThen (o : Outcome) (next : Outcome → Outcome) : Outcome :=
  if o.ending = .exit 0 then next o else o

/-- Write a text to a file; if that is the standard output, it comes out there. -/
def write (o : Outcome) (fs : FileSystem) (path text : String) : Outcome :=
  if fs.isOutput path then { o with output := o.output ++ text }
  else { o with files := o.files ++ [(path, text)] }

/-- End with a fault that nothing catches. -/
def breakOff (o : Outcome) (why : Fault) : Outcome := { o with ending := .fault why }

/-- Take what the library that draws replies: what it writes, and its fault if there is one. -/
def hear (o : Outcome) (reply : Ring.Reply) : Outcome :=
  let o := { o with
    output := o.output ++ reply.output
    errorOutput := o.errorOutput ++ reply.errorOutput }
  match reply.failure? with
  | some why => o.breakOff why
  | none => o

/-- Begin a figure. -/
def beginPlot (o : Outcome) : Outcome := { o with plots := o.plots ++ [{}] }

/-- Go on with the figure that was begun last. -/
def setPlot (o : Outcome) (plot : Plot) : Outcome :=
  { o with plots := o.plots.dropLast ++ [plot] }

end Outcome

/-! ## §2. Input. -/

/-- The symbol table that a run is asked to use; without a map it is empty. -/
def symbolTable (fs : FileSystem) (options : Options) : Except Fault Table :=
  if options.mapFile = "" then .ok {} else load fs options.mapFile

/-- The note on a symbol map that was read. -/
def symbolNotes (options : Options) (table : Table) : List Note :=
  if options.mapFile = "" then [] else [.symbolsRead table.size options.mapFile]

/-- The notes on the lines of a trace file. -/
def lineNotes (fs : FileSystem) (options : Options) : List Note :=
  match options.verbose, fs.read options.inputFile with
  | true, .ok bytes =>
      if Trace.binaryMark.isPrefixOf bytes then []
      else Trace.Reader.notes { keeps := options.family.eventNames } (Trace.linesOf bytes)
  | _, _ => []

/-- The trace that a run is asked to read. -/
def trace (fs : FileSystem) (options : Options) : Except Fault Trace.Reader :=
  Trace.load fs options.inputFile options.family.eventNames

/-! ## §3. Output. -/

/-- The notes on the records of a trace. -/
def recordNotes (options : Options) (table : Table) (trace : Trace.Reader) : List Note :=
  if options.verbose then
    Tally.notes options.family {} (.table (.fresh table)) trace.records
  else []

/-- Write the report. -/
def writeReport (tally : Tally) (o : Outcome) : Outcome :=
  let written := tally.report
  { o with output := o.output ++ written.text }.failIf written.cut

/-- Write the account, if one is asked for. -/
def writeAccount (fs : FileSystem) (options : Options) (tally : Tally) (o : Outcome) : Outcome :=
  if options.accountFile = "" then o
  else
    let o := o.note options.verbose [.writingAccount options.accountFile]
    match fs.refusal? options.accountFile with
    | some why => o.fail (.ofWriting why)
    | none =>
        let written := tally.account
        (o.write fs options.accountFile written.text).failIf written.cut

/-- Save a plot to its file, if it has one. -/
def savePlot (options : Options) (lib : Plotter) (plot : Plot) (o : Outcome) : Outcome :=
  match plot.saved with
  | none => o
  | some file =>
      ((o.note options.verbose [.plottingTo file]).setPlot { plot with shown := false }).hear
        (lib.save plot file)

/-- Show a plot on the screen, if it is to be shown. -/
def showPlot (options : Options) (lib : Plotter) (plot : Plot) (o : Outcome) : Outcome :=
  if plot.shown then
    ((o.note options.verbose [.plottingOnScreen]).setPlot plot).hear (lib.display plot)
  else o

/-- Draw a plot in a figure, and do with it what is asked for. -/
def drawPlot (options : Options) (lib : Plotter) (plot : Plot) (o : Outcome) : Outcome :=
  let composed := (o.setPlot { plot with saved := none, shown := false }).hear (lib.compose plot)
  ((composed.andThen (savePlot options lib plot)).andThen (showPlot options lib plot)).andThen
    (·.hear (lib.close plot))

/-- Draw what there is to draw. -/
def drawSketch (options : Options) (lib : Plotter) (sketch : Sketch) (o : Outcome) : Outcome :=
  (o.hear lib.figure).andThen fun o =>
    match sketch.plot options.chart options.ringsFile options.ringsShow with
    | .error why => o.beginPlot.breakOff why
    | .ok plot => drawPlot options lib plot o.beginPlot

/-- Draw the chart, if one is asked for. -/
def drawChart (options : Options) (lib : Plotter) (tally : Tally) (o : Outcome) : Outcome :=
  if options.ringsFile = "" ∧ !options.ringsShow then o
  else
    (o.hear lib.load).andThen fun o =>
      match sketch options.chart tally.ranked lib with
      | .error why => o.breakOff why
      | .ok none => o.note options.verbose [.nothingToPlot options.chart.name]
      | .ok (some sketch) => drawSketch options lib sketch o

/-! ## §4. Runs. -/

/-- Tally a trace and write what is asked for. -/
def report (fs : FileSystem) (options : Options) (lib : Plotter) (table : Table)
    (trace : Trace.Reader) (o : Outcome) : Outcome :=
  let tally := Tally.ofTrace options.family table trace
  let notes := .filtering options.family :: recordNotes options table trace ++ tally.closing trace
  (((o.note options.verbose notes).andThen (writeReport tally)).andThen
    (writeAccount fs options tally)).andThen (drawChart options lib tally)

/-- Read what is asked for and go on with it. -/
def execute (fs : FileSystem) (options : Options) (lib : Plotter) : Outcome :=
  match symbolTable fs options with
  | .error why => ({} : Outcome).fail why
  | .ok table =>
      let o := ({} : Outcome).note options.verbose
        (symbolNotes options table ++ lineNotes fs options)
      match trace fs options with
      | .error why => o.fail why
      | .ok trace =>
          report fs options lib table trace
            (o.note options.verbose [trace.summary options.inputFile])

/-- All that the command does for a command line. -/
def run (fs : FileSystem) (argv : List String) (lib : Plotter := .recorder) : Outcome :=
  match parse argv with
  | .error stop =>
      { ending := .exit stop.code, output := stop.output, errorOutput := stop.errorOutput }
  | .ok options => execute fs options lib

end SlabWaste.Command
