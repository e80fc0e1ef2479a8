/-
  SlabWaste.Proofs.Command.Output
  ───────────────────────────────
  **WHAT COMES TO THE STANDARD OUTPUT.**

  The report comes first.  Whatever is asked for besides it comes after it, and
  comes to the standard output only where that is the file it is to go to: the
  account if it is sent there, and a chart if the library that draws saves it
  there.

      Plotter.Quiet         a library that writes nothing there by itself
      Outcome.Extends       what is written is not taken back
      Extends.drawChart     a chart leaves the standard output alone
      output_execute        the standard output of a run: the report, and then an
                            account that is sent there
-/
import SlabWaste.Command

namespace SlabWaste

open SlabWaste.CommandLine
open SlabWaste.Ring
open SlabWaste.Symbols

/-! ## §1. Files and libraries. -/

/-- The file is not the standard output under another name. -/
def FileSystem.Apart (fs : FileSystem) (file : String) : Prop :=
  file ≠ "" → fs.isOutput file = false

/-- A library that writes to the standard output nothing but what it is told to save there. -/
structure Ring.Plotter.Quiet (lib : Plotter) (fs : FileSystem) : Prop where
  load : lib.load.output = ""
  figure : lib.figure.output = ""
  compose : ∀ plot, (lib.compose plot).output = ""
  save : ∀ plot file, fs.isOutput file = false → (lib.save plot file).output = ""
  display : ∀ plot, (lib.display plot).output = ""
  close : ∀ plot, (lib.close plot).output = ""

/-- The library that records says nothing at all. -/
theorem Ring.Plotter.quiet_recorder (fs : FileSystem) : Plotter.recorder.Quiet fs :=
  ⟨rfl, rfl, fun _ => rfl, fun _ _ _ => rfl, fun _ => rfl, fun _ => rfl⟩

/-- A plot goes to the file that was asked for, if there was one. -/
theorem Ring.Sketch.saved_plot {s : Sketch} {m : Measure} {file : String} {shown : Bool}
    {plot : Plot} (h : s.plot m file shown = .ok plot) :
    plot.saved = if file = "" then none else some file := by
  obtain ⟨_, -, h⟩ := bind_eq_ok h
  injection h with h
  rw [← h]

namespace Command

/-! ## §2. Steps. -/

namespace Outcome

/-- Notes go to the standard error. -/
@[simp] theorem output_note (o : Outcome) (verbose : Bool) (notes : List Note) :
    (o.note verbose notes).output = o.output := rfl

/-- A run that fails keeps what it has written. -/
@[simp] theorem output_fail (o : Outcome) (why : Fault) : (o.fail why).output = o.output := by
  cases why <;> rfl

/-- … also if it fails in the middle of a text. -/
@[simp] theorem output_failIf (o : Outcome) (cut : Option Fault) :
    (o.failIf cut).output = o.output := by
  cases cut with
  | none => rfl
  | some why => exact o.output_fail why

/-- A run that goes on takes the next step. -/
theorem andThen_of_open {o : Outcome} (h : o.ending = .exit 0) (next : Outcome → Outcome) :
    o.andThen next = next o := if_pos h

/-- A run that has come to an end takes none. -/
theorem andThen_of_ended {o : Outcome} (h : o.ending ≠ .exit 0) (next : Outcome → Outcome) :
    o.andThen next = o := if_neg h

/-- A fault is the end of a run. -/
theorem ending_fail_ne (o : Outcome) (why : Fault) : (o.fail why).ending ≠ .exit 0 := by
  cases why with
  | refused refusal =>
      intro h
      injection h with h
      cases h
  | _ => exact Ending.noConfusion

/-- What the library replies comes after what was written before. -/
theorem output_hear (o : Outcome) (reply : Ring.Reply) :
    (o.hear reply).output = o.output ++ reply.output := by
  unfold hear
  cases reply.failure? <;> rfl

/-- A run went on from one outcome to another: it took nothing back of what it had written, and
wrote nothing more if a condition holds. -/
def Extends (quiet : Prop) (o p : Outcome) : Prop :=
  ∃ more, p.output = o.output ++ more ∧ (quiet → more = "")

namespace Extends

variable {quiet : Prop} {o p q : Outcome}

/-- Nothing was written yet. -/
theorem refl (quiet : Prop) (o : Outcome) : o.Extends quiet o :=
  ⟨"", String.append_empty.symm, fun _ => rfl⟩

/-- A step that writes elsewhere. -/
theorem of_output_eq (h : o.Extends quiet p) (hsame : q.output = p.output) : o.Extends quiet q := by
  obtain ⟨more, hp, hmore⟩ := h
  exact ⟨more, hsame.trans hp, hmore⟩

/-- A request to the library. -/
theorem hear (h : o.Extends quiet p) {reply : Ring.Reply} (hreply : quiet → reply.output = "") :
    o.Extends quiet (p.hear reply) := by
  obtain ⟨more, hp, hmore⟩ := h
  refine ⟨more ++ reply.output, ?_, fun hquiet => ?_⟩
  · rw [output_hear, hp, String.append_assoc]
  · rw [hmore hquiet, hreply hquiet, String.append_empty]

/-- A step that is taken only if the run has not come to an end. -/
theorem andThen (h : o.Extends quiet p) {next : Outcome → Outcome}
    (hnext : ∀ {p : Outcome}, o.Extends quiet p → o.Extends quiet (next p)) :
    o.Extends quiet (p.andThen next) := by
  by_cases hopen : p.ending = .exit 0
  · rw [andThen_of_open hopen]
    exact hnext h
  · rw [andThen_of_ended hopen]
    exact h

end Extends

end Outcome

/-! ## §3. The chart. -/

variable {fs : FileSystem} {options : Options} {lib : Plotter}

/-- A chart that is quiet: its library is, and it is not sent to the standard output. -/
structure QuietChart (fs : FileSystem) (options : Options) (lib : Plotter) : Prop where
  lib : lib.Quiet fs
  file : fs.Apart options.ringsFile

namespace Outcome.Extends

variable {o p : Outcome}

/-- A chart that goes elsewhere writes nothing there when it is saved. -/
theorem savePlot (h : o.Extends (QuietChart fs options lib) p) {plot : Plot}
    (hfile : ∀ file, plot.saved = some file → file ≠ "" ∧ file = options.ringsFile) :
    o.Extends (QuietChart fs options lib) (savePlot options lib plot p) := by
  unfold Command.savePlot
  cases hsaved : plot.saved with
  | none => exact h
  | some file =>
      simp only
      obtain ⟨hne, hsame⟩ := hfile file hsaved
      have happend : QuietChart fs options lib → (lib.save plot file).output = "" := by
        intro hquiet
        exact hquiet.lib.save plot file (hsame ▸ hquiet.file (hsame ▸ hne))
      apply hear _ happend
      exact h.of_output_eq rfl

/-- What is shown on the screen is not written. -/
theorem showPlot (h : o.Extends (QuietChart fs options lib) p) (plot : Plot) :
    o.Extends (QuietChart fs options lib) (showPlot options lib plot p) := by
  unfold Command.showPlot
  split
  · apply hear _ fun hquiet => hquiet.lib.display plot
    exact h.of_output_eq rfl
  · exact h

/-- A plot is composed, saved, shown and closed. -/
theorem drawPlot (h : o.Extends (QuietChart fs options lib) p) {plot : Plot}
    (hfile : ∀ file, plot.saved = some file → file ≠ "" ∧ file = options.ringsFile) :
    o.Extends (QuietChart fs options lib) (drawPlot options lib plot p) := by
  have hset := h.of_output_eq (q := p.setPlot { plot with saved := none, shown := false }) rfl
  have hcomposed := hset.hear fun hquiet => hquiet.lib.compose plot
  have hsaved := hcomposed.andThen fun h => h.savePlot hfile
  have hshown := hsaved.andThen fun h => h.showPlot plot
  exact hshown.andThen fun h => h.hear fun hquiet => hquiet.lib.close plot

/-- The chart is saved to the file that was asked for, so that one condition on it is enough. -/
theorem drawSketch (h : o.Extends (QuietChart fs options lib) p) (sketch : Sketch) :
    o.Extends (QuietChart fs options lib) (drawSketch options lib sketch p) := by
  apply (h.hear fun hquiet => hquiet.lib.figure).andThen
  intro p h
  cases hplot : sketch.plot options.chart options.ringsFile options.ringsShow with
  | error why => exact h.of_output_eq rfl
  | ok plot =>
      have hsaved := Sketch.saved_plot hplot
      have hbegun := h.of_output_eq (q := p.beginPlot) rfl
      apply hbegun.drawPlot
      intro file hfile
      rw [hsaved] at hfile
      by_cases hnone : options.ringsFile = ""
      · rw [if_pos hnone] at hfile
        cases hfile
      · rw [if_neg hnone] at hfile
        injection hfile with hfile
        exact ⟨hfile ▸ hnone, hfile.symm⟩

/-- **A chart leaves the standard output alone**, whatever becomes of it, if the library is quiet
and the chart is not sent there; and it never takes anything back. -/
theorem drawChart (h : o.Extends (QuietChart fs options lib) p) (tally : Tally) :
    o.Extends (QuietChart fs options lib) (drawChart options lib tally p) := by
  unfold Command.drawChart
  split
  · exact h
  · apply (h.hear fun hquiet => hquiet.lib.load).andThen
    intro p h
    cases sketch options.chart tally.ranked lib with
    | error why => exact h.of_output_eq rfl
    | ok found =>
        cases found with
        | none => exact h.of_output_eq rfl
        | some sketch => exact h.drawSketch sketch

end Outcome.Extends

/-- What comes to the standard output of an account: its text, if it is sent there. -/
def accountOutput (fs : FileSystem) (options : Options) (tally : Tally) : String :=
  if options.accountFile = "" ∨ fs.isOutput options.accountFile = false then ""
  else
    match fs.refusal? options.accountFile with
    | some _ => ""
    | none => tally.account.text

/-- An account that goes elsewhere leaves nothing there. -/
theorem accountOutput_of_apart (h : fs.Apart options.accountFile) (tally : Tally) :
    accountOutput fs options tally = "" := by
  unfold accountOutput
  rw [if_pos (Decidable.or_iff_not_imp_left.mpr h)]

/-- A text comes to the standard output if its file is that, and else not. -/
theorem output_write (o : Outcome) (path text : String) :
    (o.write fs path text).output = o.output ++ if fs.isOutput path = false then "" else text := by
  unfold Outcome.write
  cases fs.isOutput path with
  | true => rfl
  | false => exact String.append_empty.symm

/-- Whatever becomes of the account, what comes there of it is `accountOutput`. -/
theorem output_writeAccount (tally : Tally) (o : Outcome) :
    (writeAccount fs options tally o).output = o.output ++ accountOutput fs options tally := by
  unfold writeAccount accountOutput
  by_cases hnone : options.accountFile = ""
  · rw [if_pos hnone, if_pos (Or.inl hnone), String.append_empty]
  · rw [if_neg hnone]
    simp only [hnone, false_or]
    cases fs.refusal? options.accountFile with
    | some why => simp
    | none => simp [output_write]

/-! ## §5. Runs. -/

/-- What a run reports: the whole report, or the part of it that was written. -/
def printed (fs : FileSystem) (options : Options) : String :=
  match symbolTable fs options, trace fs options with
  | .ok table, .ok r => (Tally.ofTrace options.family table r).report.text
  | _, _ => ""

/-- What comes after a report that was written to its end. -/
def appended (fs : FileSystem) (options : Options) : String :=
  match symbolTable fs options, trace fs options with
  | .ok table, .ok r =>
      let tally := Tally.ofTrace options.family table r
      if tally.report.cut = none then accountOutput fs options tally else ""
  | _, _ => ""

/-- Nothing comes after the report if the account goes elsewhere. -/
theorem appended_of_apart (h : fs.Apart options.accountFile) : appended fs options = "" := by
  unfold appended
  split
  · simp only [accountOutput_of_apart h, ite_self]
  · rfl

/-- The report comes first, and the account only after a whole one. -/
theorem output_reported {o : Outcome} (h : o.ending = .exit 0) (tally : Tally) :
    ((o.andThen (writeReport tally)).andThen (writeAccount fs options tally)).output
      = o.output ++ tally.report.text
        ++ if tally.report.cut = none then accountOutput fs options tally else "" := by
  rw [Outcome.andThen_of_open h]
  unfold writeReport
  simp only
  cases tally.report.cut with
  | none =>
      rw [if_pos rfl]
      have hopen : ({ o with output := o.output ++ tally.report.text } : Outcome).ending = .exit 0 :=
        h
      unfold Outcome.failIf
      simp only
      rw [Outcome.andThen_of_open hopen, output_writeAccount]
  -- a report that was cut is a fault, and the account is not begun
  | some why =>
      rw [if_neg (by simp), String.append_empty]
      unfold Outcome.failIf
      simp only
      rw [Outcome.andThen_of_ended (Outcome.ending_fail_ne _ why), Outcome.output_fail]

/-- **The standard output of a run** is what it reports, and then an account that is sent there, and
then what there is of a chart. -/
theorem output_execute (fs : FileSystem) (options : Options) (lib : Plotter) :
    ∃ more, (execute fs options lib).output = printed fs options ++ appended fs options ++ more
      ∧ (QuietChart fs options lib → more = "") := by
  unfold execute printed appended
  cases symbolTable fs options with
  | error why => exact ⟨"", by simp, fun _ => rfl⟩
  | ok table =>
      cases trace fs options with
      | error why => exact ⟨"", by simp, fun _ => rfl⟩
      | ok r =>
          simp only [report]
          obtain ⟨more, hchart, hmore⟩ := (Outcome.Extends.refl (QuietChart fs options lib) _).andThen
            fun h => h.drawChart (.ofTrace options.family table r)
          refine ⟨more, hchart.trans ?_, hmore⟩
          rw [output_reported rfl]
          simp

end Command

end SlabWaste
