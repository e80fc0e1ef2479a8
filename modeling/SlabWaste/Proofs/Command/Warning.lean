/-
  SlabWaste.Proofs.Command.Warning
  ────────────────────────────────
  **LOST EVENTS ARE NEVER SILENT.**

  What the lines of a trace tell of lost events goes through a reader into a tally
  and out into the report.  A report ends with its warning just when the tally
  says that events were lost, since every other line of it ends with a figure or
  with a dash:

      Report.warns_iff      the last line of a report
      Tally.loss_run        what a tally takes over from a trace

  A report that a figure cuts short does not get to its warning, so that of such a
  trace nothing is told on the standard output:

      losses_told           lost events are never silent, if the figures fit
      silent_heavyFile      a trace with figures that do not

  Main result: `losses_told`.
-/
import SlabWaste.Proofs.Command.Endings
import SlabWaste.Proofs.Command.Output
import SlabWaste.Proofs.Number.Printed
import SlabWaste.Proofs.Tally.Pipeline
import SlabWaste.Proofs.Trace.Joining
import SlabWaste.Proofs.Trace.Losses
import Mathlib.Data.Nat.Digits.Defs

namespace SlabWaste

open SlabWaste.Symbols
open SlabWaste.Text
open SlabWaste.Trace

/-! ## §1. The last line of a report. -/

/-- Texts one after the other end as the last of them does. -/
theorem suffix_joined (texts : List String) (t : String) :
    t.toList <:+ (Written.joined (texts ++ [t])).toList := by
  rw [Written.toList_joined, List.flatMap_append, List.flatMap_singleton]
  exact List.suffix_append _ _

/-- The last line of the text ends with this character. -/
def Finishes (c : Char) (s : String) : Prop := [c, '\n'] <:+ s.toList

namespace Finishes

variable {c d : Char} {s t : String}

/-- What stands before a last line does not matter. -/
theorem append (h : Finishes c t) (s : String) : Finishes c (s ++ t) := by
  unfold Finishes
  rw [String.toList_append]
  exact h.trans (List.suffix_append _ _)

/-- A text has but one last line. -/
theorem unique (hc : Finishes c s) (hd : Finishes d s) : c = d := by
  have hsame := (List.suffix_of_suffix_length_le hc hd (Nat.le_refl 2)).eq_of_length rfl
  injection hsame

/-- Of texts one after the other, the last one has the last line. -/
theorem joined (h : Finishes c t) (texts : List String) :
    Finishes c (Written.joined (texts ++ [t])) := h.trans (suffix_joined texts t)

end Finishes

/-- A figure ends with a digit. -/
theorem finishes_printed (n : Int) :
    ∃ d < 10, Finishes (Nat.digitChar d) (Numeral.printed n ++ "\n") := by
  have hdigits : ∃ d < 10, Finishes (Nat.digitChar d) (Numeral.digits n.natAbs ++ "\n") := by
    have hne := Numeral.digitValues_ne_nil .ten n.natAbs
    have hlow := Numeral.digitValues_lt .ten n.natAbs
    have htext : (Numeral.digits n.natAbs).toList
        = digitText (Numeral.digitValues .ten n.natAbs) := by
      unfold Numeral.digits
      rw [String.toList_ofList]
      exact Numeral.toDigits_eq_digitText .ten n.natAbs
    -- the last of the digits is what the text ends with
    rcases List.eq_nil_or_concat (Numeral.digitValues .ten n.natAbs) with hnil | ⟨front, d, hd⟩
    · exact absurd hnil hne
    · refine ⟨d, hlow d (by simp [hd]), digitText front, ?_⟩
      rw [String.toList_append, htext, hd, List.concat_eq_append, digitText_append,
        List.append_assoc]
      rfl
  obtain ⟨d, hd, hfinishes⟩ := hdigits
  refine ⟨d, hd, ?_⟩
  unfold Numeral.printed Numeral.signed
  split
  · -- a sign stands in front
    rw [String.append_assoc]
    exact hfinishes.append "-"
  · exact hfinishes

namespace Report

/-- The line that warns of lost events. -/
def warningLine : String :=
  "[WARNING] events were lost while tracing, figures are incomplete\n"

/-- A row ends with its last figure, which is the peak of the waste. -/
theorem finishes_rowText (c : Caller) : ∃ d < 10, Finishes (Nat.digitChar d) (rowText c) := by
  obtain ⟨d, hd, hfinishes⟩ := finishes_printed c.usage.peakWaste
  refine ⟨d, hd, ?_⟩
  unfold rowText
  simp only
  rw [String.append_assoc]
  exact hfinishes.append _

/-- Without a warning a report ends with a figure, or with the dash of its rule. -/
theorem finishes_whole (callers : List Caller) :
    ∃ c, c ≠ 'e' ∧ Finishes c (whole callers false) := by
  unfold whole
  rw [if_neg (by decide), List.append_nil]
  rcases List.eq_nil_or_concat callers with rfl | ⟨front, c, rfl⟩
  · have hrule : Finishes '-' (rule ++ "\n") := by
      rw [Finishes, ← List.isSuffixOf_iff_suffix]
      decide +kernel
    exact ⟨'-', by decide, hrule.joined [header ++ "\n"]⟩
  · obtain ⟨d, hd, hrow⟩ := finishes_rowText c
    have hdigit : ∀ d < 10, Nat.digitChar d ≠ 'e' := by decide
    refine ⟨_, hdigit d hd, ?_⟩
    rw [List.concat_eq_append, List.map_append, ← List.append_assoc]
    exact hrow.joined _

/-- **A report ends with its warning just when events were lost.** -/
theorem warns_iff (callers : List Caller) (missed : Bool) :
    warningLine.toList <:+ (whole callers missed).toList ↔ missed = true := by
  have hline : Finishes 'e' warningLine := by
    rw [Finishes, ← List.isSuffixOf_iff_suffix]
    decide +kernel
  cases missed with
  | false =>
      obtain ⟨c, hc, hfinishes⟩ := finishes_whole callers
      constructor
      · intro h
        -- the last line would end with two different characters
        exact absurd (hfinishes.unique (hline.trans h)) hc
      · intro h
        cases h
  | true =>
      -- an empty line stands before it
      have hwarning : warningLine.toList <:+ warning.toList := by
        rw [← List.isSuffixOf_iff_suffix]
        decide +kernel
      have hlast := hwarning.trans
        (suffix_joined ([header ++ "\n", rule ++ "\n"] ++ callers.map rowText) warning)
      exact iff_of_true hlast rfl

end Report

/-! ## §2. From the trace to the tally. -/

/-- A tally that starts with a trace takes over what it says of lost events. -/
theorem Tally.loss_run {r : Reader} (h : r.LossNoted) (family : Family) (q : Resolver) :
    (Tally.run family {} q r).1.missed = r.missed ∧ (Tally.run family {} q r).1.lost = r.lost := by
  obtain ⟨hmissed, hlost⟩ := missed_lost_recordAll family {} q (r.records.map (·.toRawEvent))
  unfold Tally.run
  simp only
  rw [noteLoss_eq _ h]
  unfold withLoss
  simp only
  rw [hmissed, hlost]
  exact ⟨Bool.false_or _, Nat.zero_add _⟩

/-- What traces say of lost events has no part in the callers of their tallies. -/
theorem Tally.callers_ofTrace_of_records {r s : Reader} (h : r.records = s.records)
    (family : Family) (table : Table) :
    (Tally.ofTrace family table r).callers = (Tally.ofTrace family table s).callers := by
  have hcore : (Tally.ofTrace family table r).core = (Tally.ofTrace family table s).core := by
    unfold Tally.ofTrace
    rw [run_eq, run_eq, h]
    show (Tally.noteLoss _ _ _).core = (Tally.noteLoss _ _ _).core
    rw [core_noteLoss, core_noteLoss]
  calc (Tally.ofTrace family table r).callers
      = (Tally.ofTrace family table r).core.callers := rfl
    _ = (Tally.ofTrace family table s).core.callers := by rw [hcore]
    _ = (Tally.ofTrace family table s).callers := rfl

/-- The tally says of lost events what the lines of a file tell. -/
structure Tally.TellsOf (t : Tally) (bytes : List UInt8) : Prop where
  lost : t.lost = (toldBy bytes).sum
  missed : t.missed = true ↔ Lossy bytes

variable {fs : FileSystem} {bytes : List UInt8}

/-- **From the lines of a file to the tally**, for whatever was to be kept. -/
theorem Tally.tellsOf_run {path : String} {keeps : List String} {r : Reader}
    (hread : fs.read path = .ok bytes) (h : load fs path keeps = .ok r) (family : Family)
    (q : Resolver) : (Tally.run family {} q r).1.TellsOf bytes := by
  obtain ⟨hmissed, hlost⟩ := loss_of_load hread h
  obtain ⟨htally, hcount⟩ := Tally.loss_run (lossNoted_of_load h) family q
  constructor
  · rw [hcount, hlost]
  · rw [htally, hmissed]

/-! ## §3. Reports. -/

namespace Command

open SlabWaste.CommandLine

/-- **A whole report ends with the warning just when a line of the trace tells of lost events.** -/
theorem warns_iff_lossy {options : Options} {table : Table} {r : Reader}
    (hread : fs.read options.inputFile = .ok bytes) (htrace : trace fs options = .ok r)
    (hfits : reportOverlong? (.ofTrace options.family table r) = none) :
    Report.warningLine.toList <:+ (Tally.ofTrace options.family table r).report.text.toList
      ↔ Lossy bytes := by
  have hcut : (Tally.ofTrace options.family table r).report.cut = none := by
    rw [cut_report, hfits]
    rfl
  have htext : (Tally.ofTrace options.family table r).report.text
      = Report.whole (Tally.ofTrace options.family table r).ranked
        (Tally.ofTrace options.family table r).missed := Report.text_write hcut
  rw [htext, Report.warns_iff]
  exact (Tally.tellsOf_run hread htrace _ _).missed

/-- A report that is cut short does not get to its warning, whatever was lost. -/
theorem not_warns_of_overlong {t : Tally} {n : Int} (h : reportOverlong? t = some n) :
    ¬ Report.warningLine.toList <:+ t.report.text.toList := by
  have hcut : t.report.cut = some (.number (Numeral.unprintable n)) := by
    rw [cut_report, h]
    rfl
  have htext : t.report.text
      = Report.whole (t.ranked.takeWhile fun c => (Numeral.overlong? (Report.figures c)).isNone)
        false := Report.text_write_of_cut hcut
  rw [htext, Report.warns_iff]
  exact Bool.false_ne_true

/-- **Lost events are never silent**, as long as the figures can be printed.  After a trace that was
read, a tally has lost what the lines of the file tell together, and has noted it just when one of
them tells of lost events, whatever was to be kept, whichever family is tallied and wherever these
lines stand.  If no figure of the report is too long, the report comes first, and alone unless an
account or a chart is sent to the standard output as well; and it ends with the warning if events
were lost, and else does not. -/
theorem losses_told {path : String} (hread : fs.read path = .ok bytes) :
    (∀ text n, told? text = some n ↔ Tells text n)
      ∧ (∀ keeps r, load fs path keeps = .ok r → ∀ family resolver table,
          (({ family, resolver } : Session).run table r).tally.TellsOf bytes)
      ∧ (∀ other moved keeps r, fs.read other = .ok moved → load fs other keeps = .ok r →
          (toldBy moved).Perm (toldBy bytes) → ∀ family resolver table,
          (({ family, resolver } : Session).run table r).tally.TellsOf bytes)
      ∧ ∀ argv options table r lib, parse argv = .ok options → options.inputFile = path →
          symbolTable fs options = .ok table → trace fs options = .ok r →
          reportOverlong? (.ofTrace options.family table r) = none →
          let report := (Tally.ofTrace options.family table r).report.text
          report.toList <+: (run fs argv lib).output.toList
            ∧ (fs.Apart options.accountFile → QuietChart fs options lib →
                (run fs argv lib).output = report)
            ∧ (Report.warningLine.toList <:+ report.toList ↔ Lossy bytes) := by
  refine ⟨fun _ _ => told?_eq_some_iff, fun keeps r hload family resolver table => ?_,
    fun other moved keeps r hother hload hperm family resolver table => ?_,
    fun argv options table r lib hparse hpath htable htrace hfits => ?_⟩
  · exact Tally.tellsOf_run hread hload family (resolver.getD (.table (.fresh table)))
  · -- the sum and whether there is any loss do not depend on the order
    have htold := Tally.tellsOf_run hother hload family (resolver.getD (.table (.fresh table)))
    exact ⟨htold.lost.trans hperm.sum_eq, htold.missed.trans (lossy_of_perm hperm)⟩
  · intro report
    subst hpath
    have hprinted : printed fs options = report := by
      unfold printed
      rw [htable, htrace]
    have hrun : run fs argv lib = execute fs options lib := by
      unfold run
      rw [hparse]
    -- the report is printed before the account and the chart add anything
    obtain ⟨more, houtput, hmore⟩ := output_execute fs options lib
    rw [hprinted, ← hrun] at houtput
    refine ⟨?_, fun haccount hchart => ?_, warns_iff_lossy hread htrace hfits⟩
    · rw [houtput, String.append_assoc, String.toList_append]
      exact List.prefix_append _ _
    · rw [houtput, appended_of_apart haccount, hmore hchart, String.append_empty,
        String.append_empty]

/-- A trace whose lines tell of lost events three times, once of none. -/
def lossFile : List UInt8 :=
  "# entries-in-buffer/entries-written: 3/10\n  CPU 0 [LOST 0 EVENTS]\ncc1-7 [0] 1.5: kfree: ptr=1\nCPU:1 [LOST 5 EVENTS] again\n".toList.flatMap
    String.utf8EncodeChar

/-- A file system in which every path leads to it. -/
def lossFiles : FileSystem where
  read _ := .ok lossFile
  refusal? _ := none

/-- The reader that has read it. -/
def lossRead : Reader where
  keeps := Family.all.eventNames
  seen := 1
  kept :=
    [{ event := "kfree", fields := [("ptr", "1")], cpu := 0, timestamp := .finite (3 / 2),
       task := "cc1", pid := 7, seq := 0 }]
  missed := true
  lost := 12

/-- Twelve lost events are counted, and the report ends with the warning. -/
theorem losses_told_lossFile :
    load lossFiles "trace.log" Family.all.eventNames = .ok lossRead ∧ toldBy lossFile = [7, 0, 5]
      ∧ (∀ resolver table, (({ resolver } : Session).run table lossRead).tally.lost = 12
        ∧ (({ resolver } : Session).run table lossRead).tally.missed = true)
      ∧ Report.warningLine.toList <:+ (run lossFiles ["trace.log"]).output.toList := by
  have hload : load lossFiles "trace.log" Family.all.eventNames = .ok lossRead := by decide +kernel
  have htold : toldBy lossFile = [7, 0, 5] := by decide +kernel
  have hread : lossFiles.read "trace.log" = .ok lossFile := rfl
  have hlossy : Lossy lossFile := by
    rw [lossy_iff, htold]
    decide
  obtain ⟨-, htally, -, hreport⟩ := losses_told hread
  refine ⟨hload, htold, fun resolver table => ?_, ?_⟩
  · obtain ⟨hlost, hmissed⟩ := htally _ _ hload .all resolver table
    rw [htold] at hlost
    exact ⟨hlost, hmissed.mpr hlossy⟩
  · have htable : symbolTable lossFiles withoutMap = .ok {} := rfl
    have hrecords : lossRead.records = lossRead.inFileOrder :=
      List.perm_singleton.mp (Reader.records_perm (sound_of_load hload))
    -- the one release finds nothing, so that there is no caller
    have hfits : reportOverlong? (.ofTrace .all {} lossRead) = none := by
      unfold reportOverlong? Tally.ofTrace
      rw [Tally.run_eq, hrecords]
      decide +kernel
    obtain ⟨-, hwhole, hwarns⟩ := hreport ["trace.log"] withoutMap {} lossRead .recorder
      parse_withoutMap rfl htable hload hfits
    have hchart : QuietChart lossFiles withoutMap .recorder :=
      ⟨Ring.Plotter.quiet_recorder _, fun _ => rfl⟩
    rw [hwhole (fun _ => rfl) hchart]
    exact hwarns.mpr hlossy

/-! A figure that is too long keeps the warning from being written. -/

/-- The greatest number of 4299 digits, which is short enough to be read and to be printed. -/
@[irreducible] def nines : Nat := Nat.pow 10 4299 - 1

/-- It has one digit less than may be read and printed. -/
theorem short_nines : (Nat.toDigits 10 nines).length < Numeral.digitLimit := by
  have hlength : ∀ e, 0 < e → (Nat.toDigits 10 (Nat.pow 10 e - 1)).length ≤ e := fun e he =>
    Nat.toDigits_length 10 _ e he (Nat.sub_lt (Nat.pow_pos (by decide)) (by decide))
  unfold nines
  exact Nat.lt_succ_of_le (hlength 4299 (by decide))

/-- Eleven allocations of so many bytes each. -/
def heavy : List Item :=
  (List.range 11).map fun n =>
    .atSecond 1 0 (0x1000 * (n + 1)) (.allocate "big" 8 nines)
      ⟨by decide, by decide, Nat.le_of_lt short_nines⟩

/-- A line that tells of seven lost events. -/
def lossLine : List Char := "CPU:0 [LOST 7 EVENTS]\n".toList

/-- A trace of these allocations, with that line in front. -/
def heavyFile : List UInt8 := Utf8.encode (lossLine :: heavy.map Item.line).flatten

/-- A file system in which every path leads to it. -/
def heavyFiles : FileSystem where
  read _ := .ok heavyFile
  refusal? _ := none

/-- The reader that has read it. -/
def heavyRead : Reader := { scriptRead heavy with missed := true, lost := 7 }

/-- What is wasted of all they are granted. -/
def heavyWaste : Int := 11 * nines - 88

/-- The caller that is charged for it. -/
def heavyCaller : Caller where
  name := "big"
  usage :=
    { current := ⟨11 * nines, 88⟩, total := ⟨11 * nines, 88⟩, peak := ⟨11 * nines, 88⟩
      allocations := 11, releases := 0, waste := heavyWaste, peakWaste := heavyWaste }

/-- The line in front is noted, and the others are read as the script says. -/
theorem load_heavyFile : load heavyFiles "trace.log" Family.all.eventNames = .ok heavyRead := by
  have hline : IsLine lossLine := ⟨"CPU:0 [LOST 7 EVENTS]".toList, rfl, by decide⟩
  -- the file is too long to be read by evaluation, so its lines are found by `linesOf_encode`
  have hlines : linesOf heavyFile
      = .ofText lossLine :: heavy.map fun e => .ofText e.line := by
    unfold heavyFile
    rw [linesOf_encode, List.map_cons, List.map_map, Function.comp_def]
    intro line hmem
    rcases List.mem_cons.mp hmem with rfl | hmem
    · exact hline
    · exact isLine_of_mem hmem
  have hfirst : Reader.step { keeps := Family.all.eventNames } (.ofText lossLine)
      = ({ keeps := Family.all.eventNames, missed := true, lost := 7 }, .ok none) := by
    decide +kernel
  have hsteps : Reader.steps { keeps := Family.all.eventNames } (linesOf heavyFile)
      = (heavyRead, none) := by
    rw [hlines, Reader.steps, hfirst]
    -- the loss is noted first, and the records that follow are those of a script
    show Reader.steps { keeps := Family.all.eventNames, missed := true, lost := 7 } _ = _
    rw [steps_lines rfl]
    simp [heavyRead, scriptRead]
  have hfront : ∀ ls, binaryMark.isPrefixOf (Utf8.encode (lossLine :: ls).flatten) = false :=
    fun ls => rfl
  have hbinary : binaryMark.isPrefixOf heavyFile = false := hfront (heavy.map Item.line)
  have hseen : heavyRead.seen ≠ 0 := by decide +kernel
  exact load_eq_ok_iff.mpr ⟨heavyFile, rfl, hbinary, hsteps, hseen⟩

/-- All that was allocated is charged to the one caller. -/
theorem ranked_heavyRead : (Tally.ofTrace .all {} heavyRead).ranked = [heavyCaller] := by
  have hsound : (scriptRead heavy).Sound := (sound_of_load load_heavyFile).of_eq rfl (Nat.le_refl _)
  -- all lines are of one CPU and one time, and stand in the order of the script
  have htimes : heavy.Pairwise fun a b => a.time.le b.time = true := by decide +kernel
  have hscript := ofTrace_scriptRead ⟨fun _ => rfl, fun _ => rfl⟩ htimes hsound
  have hcallers : (Tally.ofTrace .all {} heavyRead).callers
      = (({} : Session).processAll (heavy.map Item.event)).tally.callers := by
    have hrecords : heavyRead.records = (scriptRead heavy).records := rfl
    rw [Tally.callers_ofTrace_of_records hrecords, hscript]
  apply List.perm_singleton.mp
  have hsettled : (Tally.ofTrace .all {} heavyRead).callers.rows.map Caller.settle
      = [heavyCaller] := by
    rw [hcallers]
    decide +kernel
  rw [← hsettled]
  exact Tally.ranked_perm _

/-- **Lost events can be silent**: every number of this trace is short enough, but what the eleven
allocations add up to is not.  The trace is read and the loss is noted, the report ends before the
row of their caller, and nothing on the standard output tells of lost events. -/
theorem silent_heavyFile :
    (Nat.toDigits 10 nines).length < Numeral.digitLimit
      ∧ parse ["trace.log"] = .ok withoutMap ∧ trace heavyFiles withoutMap = .ok heavyRead
      ∧ Lossy heavyFile ∧ (Tally.ofTrace .all {} heavyRead).missed = true
      ∧ (run heavyFiles ["trace.log"]).ending
        = .fault (.number (Numeral.unprintable heavyWaste))
      ∧ (run heavyFiles ["trace.log"]).output = Report.whole [] false
      ∧ ¬ Report.warningLine.toList <:+ (run heavyFiles ["trace.log"]).output.toList := by
  have hlossy : Lossy heavyFile := (loss_of_load rfl load_heavyFile).1.mp rfl
  have hlong : reportOverlong? (.ofTrace .all {} heavyRead) = some heavyWaste := by
    unfold reportOverlong?
    rw [ranked_heavyRead]
    decide +kernel
  have htable : symbolTable heavyFiles withoutMap = .ok {} := rfl
  have htrace : trace heavyFiles withoutMap = .ok heavyRead := load_heavyFile
  obtain ⟨noted, hexecute⟩ := @execute_of_both _ _ .recorder _ _ reportOnly_withoutMap htable htrace
  have hrun : run heavyFiles ["trace.log"]
      = writeReport (.ofTrace .all {} heavyRead) { errorOutput := noted } := by
    unfold run
    rw [parse_withoutMap]
    exact hexecute
  have houtput : (run heavyFiles ["trace.log"]).output
      = (Tally.ofTrace .all {} heavyRead).report.text := by
    rw [hrun]
    unfold writeReport
    simp only
    rw [Outcome.output_failIf, String.empty_append]
  have htext : (Tally.ofTrace .all {} heavyRead).report.text = Report.whole [] false := by
    have hcut : (Tally.ofTrace .all {} heavyRead).report.cut
        = some (.number (Numeral.unprintable heavyWaste)) := by
      rw [cut_report, hlong]
      rfl
    -- the only row is the one that cannot be printed, so no row is left before the cut
    have hrows : [heavyCaller].takeWhile (fun c => (Numeral.overlong? (Report.figures c)).isNone)
        = [] := by decide +kernel
    rw [← hrows, ← ranked_heavyRead]
    exact Report.text_write_of_cut hcut
  refine ⟨short_nines, parse_withoutMap, load_heavyFile, hlossy, missed_ofTrace .all {} heavyRead,
    ?_, houtput.trans htext, ?_⟩
  · rw [hrun]
    exact writeReport_of_overlong hlong noted
  · -- a cut report has no last line, and so no warning
    rw [houtput]
    exact not_warns_of_overlong hlong

end Command

end SlabWaste
