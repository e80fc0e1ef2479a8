/-
  SlabWaste.Proofs.Command.Endings
  ────────────────────────────────
  **HOW RUNS END.**

  A run that is asked for a report only has three planned ends: the command line
  stops it, its input is refused, or it writes the whole report.  It comes to one
  of them unless it meets data that it cannot digest, and there are three kinds of
  such data:

      Indigestible      a map that is no text, a number of the trace that is too
                        long to be read, a figure that is too long to be printed
      Planned           the planned ends

  Main result: `run_ending`.
-/
import SlabWaste.Command
import SlabWaste.Proofs.Files.Paths
import SlabWaste.Proofs.Report.Page
import SlabWaste.Proofs.Report.Sheet
import SlabWaste.Proofs.Symbols.Requests
import SlabWaste.Proofs.Tally.Joining
import SlabWaste.Proofs.Trace.Refusal

namespace SlabWaste

open SlabWaste.CommandLine

/-! ## §1. Faults. -/

/-- A fault that is no refusal. -/
def Fault.Unplanned (why : Fault) : Prop := ∀ refusal, why ≠ .refused refusal

/-- A fault is a refusal, or nobody planned for it. -/
theorem Fault.refused_or_unplanned (why : Fault) :
    (∃ refusal, why = .refused refusal) ∨ why.Unplanned := by
  cases why with
  | refused refusal => exact Or.inl ⟨refusal, rfl⟩
  | _ => exact Or.inr fun refusal h => nomatch h

namespace Command

open SlabWaste.Symbols
open SlabWaste.Text
open SlabWaste.Trace

variable {fs : FileSystem} {options : Options} {lib : Ring.Plotter}

/-! ## §2. Input. -/

/-- A run is asked to use a symbol map that is no text. -/
def MapUndecodable (fs : FileSystem) (options : Options) : Prop :=
  options.mapFile ≠ "" ∧ ∃ bytes, fs.read options.mapFile = .ok bytes
    ∧ ∀ text, bytes ≠ Utf8.encode text

/-- In the first line of the trace that stops the reading of it, a number has too many digits. -/
def LineOverlong (fs : FileSystem) (options : Options) (digits : List Nat) : Prop :=
  ∃ bytes earlier text later, fs.read options.inputFile = .ok bytes ∧ ¬ binaryMark <+: bytes
    ∧ textLines bytes = earlier ++ text :: later ∧ Passes options.family.eventNames earlier
    ∧ (Line.ofText text).overlong? options.family.eventNames = some digits

/-- **There is nothing wrong with a symbol map but that it is no text**, as far as it can be
opened. -/
theorem symbolTable_unplanned_iff (hfs : fs.Lawful) (hpath : NoNul options.mapFile) {why : Fault} :
    symbolTable fs options = .error why ∧ why.Unplanned
      ↔ MapUndecodable fs options ∧ why = .notUtf8 options.mapFile := by
  unfold symbolTable MapUndecodable
  by_cases hmap : options.mapFile = ""
  · simp only [hmap, if_true, reduceCtorEq, false_and, ne_eq, not_true]
  · rw [if_neg hmap, and_iff_right hmap]
    unfold Symbols.load
    cases hread : fs.read options.mapFile with
    | error fault =>
        -- no path of these is at fault itself, so a file that cannot be opened is refused
        have hfault : fault ≠ .nulInPath := by
          rintro rfl
          exact hfs _ hread hpath
        simp only [Fault.ofOpening_of_ne hfault, Except.error.injEq, reduceCtorEq, false_and,
          exists_false, iff_false]
        rintro ⟨rfl, hunplanned⟩
        exact hunplanned _ rfl
    | ok bytes =>
        cases htable : Table.ofBytes? bytes with
        | some table =>
            obtain ⟨text, htext, -⟩ := Table.ofBytes?_eq_some_iff.mp htable
            simp only [htable, reduceCtorEq, false_and, Except.ok.injEq, exists_eq_left', false_iff]
            rintro ⟨hno, -⟩
            exact hno text htext
        | none =>
            have hno : ∀ text, bytes ≠ Utf8.encode text := by
              intro text htext
              rw [Table.ofBytes?_eq_some_iff.mpr ⟨text, htext, rfl⟩] at htable
              cases htable
            simp only [htable, Except.error.injEq, Except.ok.injEq, exists_eq_left']
            constructor
            · rintro ⟨rfl, -⟩
              exact ⟨hno, rfl⟩
            · rintro ⟨-, rfl⟩
              exact ⟨rfl, fun refusal h => nomatch h⟩

/-- **Nothing but a number that is too long stops the reading of a trace**, if it is not refused. -/
theorem trace_unplanned_iff (hfs : fs.Lawful) (hpath : NoNul options.inputFile) {why : Fault} :
    trace fs options = .error why ∧ why.Unplanned
      ↔ ∃ digits, LineOverlong fs options digits ∧ why = tooLong digits := by
  unfold trace LineOverlong
  cases hread : fs.read options.inputFile with
  | error fault =>
      have hfault : fault ≠ .nulInPath := by
        rintro rfl
        exact hfs _ hread hpath
      have hload : Trace.load fs options.inputFile options.family.eventNames
          = .error (.refused (.cannotOpen options.inputFile fault)) := by
        unfold Trace.load
        rw [hread]
        exact congrArg Except.error (Fault.ofOpening_of_ne hfault)
      rw [hload]
      simp only [Except.error.injEq, reduceCtorEq, false_and, exists_false, iff_false]
      rintro ⟨rfl, hunplanned⟩
      exact hunplanned _ rfl
  | ok bytes =>
      -- of all that can be wrong with the bytes, only such a number is not refused
      rw [load_eq_error_iff hread]
      constructor
      · rintro ⟨⟨-, rfl⟩ | ⟨hmark, ⟨earlier, text, later, htext, hfirst, hstops⟩ | ⟨-, -, rfl⟩⟩,
          hunplanned⟩
        · exact absurd rfl (hunplanned _)
        · rcases hstops with ⟨refusal, rfl, -⟩ | ⟨digits, hlong, rfl⟩
          · exact absurd rfl (hunplanned _)
          · exact ⟨digits, ⟨bytes, earlier, text, later, rfl, hmark, htext, hfirst, hlong⟩, rfl⟩
        · exact absurd rfl (hunplanned _)
      · rintro ⟨digits, ⟨own, earlier, text, later, hown, hmark, htext, hfirst, hlong⟩, rfl⟩
        injection hown with hown
        subst hown
        exact ⟨Or.inr ⟨hmark, Or.inl ⟨earlier, text, later, htext, hfirst,
          Or.inr ⟨digits, hlong, rfl⟩⟩⟩, fun refusal h => nomatch h⟩

/-! ## §3. Steps of a run. -/

/-- Neither an account nor a chart is asked for. -/
structure ReportOnly (options : Options) : Prop where
  accountFile : options.accountFile = ""
  ringsFile : options.ringsFile = ""
  ringsShow : options.ringsShow = false

/-- A run that cannot use its map has written nothing yet. -/
theorem execute_of_symbols {why : Fault} (h : symbolTable fs options = .error why) :
    execute fs options lib = ({} : Outcome).fail why := by
  unfold execute
  rw [h]

/-- What was noted before is all that a run has written when it fails to read its trace. -/
theorem execute_of_trace {table : Table} {why : Fault} (htable : symbolTable fs options = .ok table)
    (h : trace fs options = .error why) :
    ∃ noted, execute fs options lib = ({ errorOutput := noted } : Outcome).fail why := by
  unfold execute
  rw [htable]
  simp only
  rw [h]
  exact ⟨_, rfl⟩

theorem andThen_self {o : Outcome} {next : Outcome → Outcome} (h : next o = o) :
    o.andThen next = o := by
  unfold Outcome.andThen
  rw [h, ite_self]

/-- If it is asked for no more, a run that has read its trace writes the report. -/
theorem report_of_asked (hasked : ReportOnly options) (table : Table) (r : Reader) (o : Outcome) :
    report fs options lib table r o
      = (o.note options.verbose (.filtering options.family :: recordNotes options table r
          ++ (Tally.ofTrace options.family table r).closing r)).andThen
        (writeReport (.ofTrace options.family table r)) := by
  have haccount : ∀ tally o, writeAccount fs options tally o = o := by
    intro tally o
    unfold writeAccount
    rw [if_pos hasked.accountFile]
  have hchart : ∀ tally o, drawChart options lib tally o = o := by
    intro tally o
    unfold drawChart
    rw [if_pos ⟨hasked.ringsFile, by rw [hasked.ringsShow]; rfl⟩]
  unfold report
  simp only
  rw [andThen_self (hchart _ _), andThen_self (haccount _ _)]

/-- A run that has read all it is asked to read goes on with its report, and that is all it does. -/
theorem execute_of_both {table : Table} {r : Reader} (hasked : ReportOnly options)
    (htable : symbolTable fs options = .ok table) (htrace : trace fs options = .ok r) :
    ∃ noted, execute fs options lib
      = writeReport (.ofTrace options.family table r) { errorOutput := noted } := by
  unfold execute
  rw [htable]
  simp only
  rw [htrace]
  simp only
  rw [report_of_asked hasked]
  exact ⟨_, rfl⟩

/-! ## §4. Endings. -/

/-- A refusal is told to the user, and only what is none shows up as the end of a run. -/
theorem ending_fail {o : Outcome} {cause why : Fault} :
    (o.fail cause).ending = .fault why ↔ cause = why ∧ why.Unplanned := by
  rcases cause.refused_or_unplanned with ⟨refusal, rfl⟩ | hunplanned
  · constructor
    · intro h
      cases h
    · rintro ⟨rfl, hunplanned⟩
      exact absurd rfl (hunplanned refusal)
  · -- a fault that is no refusal is left as it is
    have hending : (o.fail cause).ending = .fault cause := by
      cases cause with
      | refused refusal => exact absurd rfl (hunplanned refusal)
      | _ => rfl
    rw [hending, Ending.fault.injEq]
    constructor
    · rintro rfl
      exact ⟨rfl, hunplanned⟩
    · exact And.left

/-- The first figure of a tally's report that has too many digits. -/
def reportOverlong? (t : Tally) : Option Int :=
  Numeral.overlong? (t.ranked.flatMap Report.figures)

/-- A report breaks off at the first figure that is too long, and nowhere else. -/
theorem cut_report (t : Tally) :
    t.report.cut = (reportOverlong? t).map fun n => .number (Numeral.unprintable n) :=
  Report.cut_write t.ranked t.missed

/-- If there is no such figure, the whole report is written. -/
theorem writeReport_of_fits {t : Tally} (h : reportOverlong? t = none) (noted : String) :
    writeReport t { errorOutput := noted }
      = { output := Report.whole t.ranked t.missed, errorOutput := noted } := by
  have hcut : t.report.cut = none := by
    rw [cut_report, h]
    rfl
  have htext : t.report.text = Report.whole t.ranked t.missed := Report.text_write hcut
  unfold writeReport
  simp only
  rw [hcut, htext]
  unfold Outcome.failIf
  rw [String.empty_append]

/-- If there is one, it is what the run ends with. -/
theorem writeReport_of_overlong {t : Tally} {n : Int} (h : reportOverlong? t = some n)
    (noted : String) :
    (writeReport t { errorOutput := noted }).ending = .fault (.number (Numeral.unprintable n)) := by
  unfold writeReport
  simp only
  rw [cut_report, h]
  rfl

/-- Data that a run cannot digest, and the fault that it ends with. -/
inductive Indigestible (fs : FileSystem) (options : Options) : Fault → Prop where
  /-- The symbol map is no text. -/
  | map (hmap : MapUndecodable fs options) : Indigestible fs options (.notUtf8 options.mapFile)
  /-- A number of the trace is too long to be read. -/
  | line {table : Table} {digits : List Nat} (htable : symbolTable fs options = .ok table)
      (hline : LineOverlong fs options digits) : Indigestible fs options (tooLong digits)
  /-- A figure of the report is too long to be printed. -/
  | figure {table : Table} {r : Reader} {n : Int} (htable : symbolTable fs options = .ok table)
      (htrace : trace fs options = .ok r)
      (hlong : reportOverlong? (.ofTrace options.family table r) = some n) :
      Indigestible fs options (.number (Numeral.unprintable n))

/-- Such data end a run with their fault. -/
theorem Indigestible.ending {why : Fault} (h : Indigestible fs options why) (hfs : fs.Lawful)
    (hmap : NoNul options.mapFile) (hinput : NoNul options.inputFile)
    (hasked : ReportOnly options) : (execute fs options lib).ending = .fault why := by
  cases h with
  | map hundecodable =>
      obtain ⟨htable, hunplanned⟩ := (symbolTable_unplanned_iff hfs hmap).mpr ⟨hundecodable, rfl⟩
      rw [execute_of_symbols htable, ending_fail]
      exact ⟨rfl, hunplanned⟩
  | line htable hline =>
      obtain ⟨htrace, hunplanned⟩ := (trace_unplanned_iff hfs hinput).mpr ⟨_, hline, rfl⟩
      obtain ⟨noted, hexecute⟩ := execute_of_trace htable htrace
      rw [hexecute, ending_fail]
      exact ⟨rfl, hunplanned⟩
  | figure htable htrace hlong =>
      obtain ⟨noted, hexecute⟩ := execute_of_both hasked htable htrace
      rw [hexecute]
      exact writeReport_of_overlong hlong noted

/-- The planned ends of a run that is asked for a report only. -/
inductive Planned (fs : FileSystem) (argv : List String) (o : Outcome) : Prop where
  /-- The command line is not one to run, or asks for help. -/
  | usage {stop : Stop} (hparse : parse argv = .error stop)
      (houtcome : o = { ending := .exit stop.code, output := stop.output,
                        errorOutput := stop.errorOutput })
  /-- The whole report is written: a row for each caller, and a warning if events were lost. -/
  | reported {options : Options} {table : Table} {r : Reader} (hparse : parse argv = .ok options)
      (htable : symbolTable fs options = .ok table) (htrace : trace fs options = .ok r)
      (hending : o.ending = .exit 0)
      (houtput : o.output
        = Report.whole (Tally.ofTrace options.family table r).ranked r.missed)
      (hcallers : (Tally.ofTrace options.family table r).ranked.Perm
        ((Tally.ofTrace options.family table r).callers.rows.map Caller.settle))
      (hfiles : o.files = []) (hplots : o.plots = [])
  /-- The map or the trace is refused, and the last that is said is why. -/
  | refused {options : Options} {why : Refusal} {noted : String}
      (hparse : parse argv = .ok options)
      (hwhy : symbolTable fs options = .error (.refused why)
        ∨ (∃ table, symbolTable fs options = .ok table)
          ∧ trace fs options = .error (.refused why))
      (hending : o.ending = .exit 1) (houtput : o.output = "")
      (herror : o.errorOutput = noted ++ "trace-mem: " ++ why.message ++ "\n")
      (hfiles : o.files = []) (hplots : o.plots = [])

/-- A tally of one trace has missed events just when the trace says so. -/
theorem missed_ofTrace (family : Family) (table : Table) (r : Reader) :
    (Tally.ofTrace family table r).missed = r.missed := by
  have hnone := (Tally.missed_lost_recordAll family {} (.table (.fresh table))
    (r.records.map (·.toRawEvent))).1
  unfold Tally.ofTrace Tally.run Tally.noteLoss
  simp only
  cases hmissed : r.missed with
  | true => rfl
  | false => exact hnone

/-- What is said of a refusal, after what was said before. -/
theorem errorOutput_fail_refused (noted : String) (why : Refusal) :
    (({ errorOutput := noted } : Outcome).fail (.refused why)).errorOutput
      = noted ++ "trace-mem: " ++ why.message ++ "\n" := by
  have hname : programName ++ ": " = "trace-mem: " := by decide
  show noted ++ (programName ++ ": " ++ why.message ++ "\n") = _
  rw [hname, ← String.append_assoc, ← String.append_assoc]

/-- No planned end is a fault. -/
theorem Planned.ending_ne {argv : List String} {o : Outcome} (h : Planned fs argv o) (why : Fault) :
    o.ending ≠ .fault why := by
  cases h with
  | usage _ houtcome =>
      rw [houtcome]
      exact Ending.noConfusion
  | reported _ _ _ hending =>
      rw [hending]
      exact Ending.noConfusion
  | refused _ _ hending =>
      rw [hending]
      exact Ending.noConfusion

/-- A run that goes on after its command line comes to a planned end or meets such data. -/
theorem indigestible_or_planned (hfs : fs.Lawful) {argv : List String}
    (hparse : parse argv = .ok options) (hmap : NoNul options.mapFile)
    (hinput : NoNul options.inputFile) (hasked : ReportOnly options) :
    (∃ why, Indigestible fs options why) ∨ Planned fs argv (execute fs options lib) := by
  -- in the order in which a run reads: the map, the trace, and then the figures of the report
  cases htable : symbolTable fs options with
  | error cause =>
      rcases cause.refused_or_unplanned with ⟨why, rfl⟩ | hunplanned
      · right
        rw [execute_of_symbols htable]
        exact .refused hparse (Or.inl htable) rfl rfl (errorOutput_fail_refused "" why) rfl rfl
      · obtain ⟨hundecodable, -⟩ := (symbolTable_unplanned_iff hfs hmap).mp ⟨htable, hunplanned⟩
        exact Or.inl ⟨_, .map hundecodable⟩
  | ok table =>
      cases htrace : trace fs options with
      | error cause =>
          rcases cause.refused_or_unplanned with ⟨why, rfl⟩ | hunplanned
          · right
            obtain ⟨noted, hexecute⟩ := execute_of_trace htable htrace
            rw [hexecute]
            exact .refused hparse (Or.inr ⟨⟨table, htable⟩, htrace⟩) rfl rfl
              (errorOutput_fail_refused noted why) rfl rfl
          · obtain ⟨digits, hline, -⟩ := (trace_unplanned_iff hfs hinput).mp ⟨htrace, hunplanned⟩
            exact Or.inl ⟨_, .line htable hline⟩
      | ok r =>
          cases hlong : reportOverlong? (.ofTrace options.family table r) with
          | some n => exact Or.inl ⟨_, .figure htable htrace hlong⟩
          | none =>
              right
              obtain ⟨noted, hexecute⟩ := execute_of_both hasked htable htrace
              rw [hexecute, writeReport_of_fits hlong, missed_ofTrace]
              exact .reported hparse htable htrace rfl rfl (Tally.ranked_perm _) rfl rfl

/-- **A run that is asked for a report only comes to a planned end**, whatever the bytes of its
trace and its map, and whatever library there is to draw: unless the map is no text, or a number in
the first line that stops the reading of the trace has too many digits to be read, or a figure of
the report has too many to be printed.  In these cases it ends with that fault. -/
theorem run_ending (hfs : fs.Lawful) {argv : List String} (hargv : ∀ argument ∈ argv, NoNul argument)
    (hasked : ∀ options, parse argv = .ok options → ReportOnly options) (lib : Ring.Plotter) :
    (∀ why, (run fs argv lib).ending = .fault why
        ↔ ∃ options, parse argv = .ok options ∧ Indigestible fs options why)
      ∧ ((∃ why, (run fs argv lib).ending = .fault why) ∨ Planned fs argv (run fs argv lib)) := by
  cases hparse : parse argv with
  | error stop =>
      have hrun : run fs argv lib = { ending := .exit stop.code, output := stop.output,
                                      errorOutput := stop.errorOutput } := by
        unfold run
        rw [hparse]
      -- the arguments are refused, so no file is read and no fault is left over
      refine ⟨fun why => ?_, Or.inr (.usage hparse hrun)⟩
      rw [hrun]
      constructor
      · intro h
        cases h
      · rintro ⟨options, hoptions, -⟩
        cases hoptions
  | ok options =>
      have hrun : run fs argv lib = execute fs options lib := by
        unfold run
        rw [hparse]
      obtain ⟨hmap, hinput⟩ := paths_of_parse hargv hparse
      have hnamed : NoNul options.inputFile := by
        rcases hinput with hdefault | hnamed
        · rw [hdefault]
          decide
        · exact hnamed
      have hplain := hasked options hparse
      rw [hrun]
      -- what cannot be digested ends the run, and `indigestible_or_planned` leaves nothing else
      have hending : ∀ why, Indigestible fs options why
          → (execute fs options lib).ending = .fault why := fun why h =>
        h.ending hfs hmap hnamed hplain
      have hends : (∃ why, Indigestible fs options why) ∨ Planned fs argv (execute fs options lib) :=
        indigestible_or_planned hfs hparse hmap hnamed hplain
      refine ⟨fun why => ⟨fun h => ?_, ?_⟩, ?_⟩
      · -- a run has one ending, so the fault it ends with is the one found here
        rcases hends with ⟨other, hother⟩ | hplanned
        · have hsame := hending other hother
          rw [h] at hsame
          injection hsame with hsame
          rw [hsame]
          exact ⟨options, rfl, hother⟩
        · exact absurd h (hplanned.ending_ne why)
      · rintro ⟨_, hsame, h⟩
        injection hsame with hsame
        rw [← hsame] at h
        exact hending why h
      · rcases hends with ⟨why, hwhy⟩ | hplanned
        · exact Or.inl ⟨why, hending why hwhy⟩
        · exact Or.inr hplanned

/-- A file system with a trace of one allocation and a symbol map of one byte, which is no text. -/
def undecodable : FileSystem where
  read path :=
    if path = "trace.log" then
      .ok ("cc1-7 [0] 1.5: kmalloc: call_site=ffff ptr=10 bytes_req=20 bytes_alloc=32\n".toList.flatMap
        String.utf8EncodeChar)
    else if path = "System.map" then .ok [0xFF]
    else .error .notFound
  refusal? _ := none

theorem lawful_undecodable : undecodable.Lawful := by
  intro path h
  unfold undecodable at h
  simp only at h
  split at h
  · cases h
  split at h
  · cases h
  · cases h

/-- What a run with that map is asked to do. -/
def withMap : Options where
  mapFile := "System.map"
  positionals := ["trace.log"]
  inputFile := "trace.log"
  family := .all
  chart := .current

/-- What a run without it is asked to do. -/
def withoutMap : Options := { withMap with mapFile := "" }

theorem parse_withMap : parse ["-m", "System.map", "trace.log"] = .ok withMap := by decide +kernel

theorem parse_withoutMap : parse ["trace.log"] = .ok withoutMap := by decide +kernel

/-- The reader that has read that trace. -/
def allocationRead : Reader where
  keeps := Family.all.eventNames
  seen := 1
  kept :=
    [{ event := "kmalloc",
       fields := [("call_site", "ffff"), ("ptr", "10"), ("bytes_req", "20"), ("bytes_alloc", "32")],
       cpu := 0, timestamp := .finite (3 / 2), task := "cc1", pid := 7, seq := 0 }]

/-- The caller that it charges. -/
def allocationCaller : Caller where
  name := "0xffff"
  usage :=
    { current := ⟨32, 20⟩, total := ⟨32, 20⟩, peak := ⟨32, 20⟩, allocations := 1, releases := 0,
      waste := 12, peakWaste := 12 }

/-- Without the map, the trace is read. -/
theorem trace_undecodable : trace undecodable withoutMap = .ok allocationRead := by decide +kernel

/-- One record has but one order. -/
theorem records_allocationRead : allocationRead.records = allocationRead.inFileOrder :=
  List.perm_singleton.mp (Reader.records_perm (sound_of_load trace_undecodable))

/-- … and so has one caller. -/
theorem ranked_allocationRead :
    (Tally.ofTrace .all {} allocationRead).ranked = [allocationCaller] := by
  have hcallers : (Tally.ofTrace .all {} allocationRead).callers.rows.map Caller.settle
      = [allocationCaller] := by
    unfold Tally.ofTrace
    rw [Tally.run_eq, records_allocationRead]
    decide +kernel
  apply List.perm_singleton.mp
  rw [← hcallers]
  exact Tally.ranked_perm _

theorem fits_allocationRead : reportOverlong? (.ofTrace .all {} allocationRead) = none := by
  unfold reportOverlong?
  rw [ranked_allocationRead]
  decide +kernel

theorem reportOnly_withMap : ReportOnly withMap := ⟨rfl, rfl, rfl⟩

theorem reportOnly_withoutMap : ReportOnly withoutMap := ⟨rfl, rfl, rfl⟩

/-- **A map that is no text ends the run**: it neither writes a report nor says why it does not,
though the trace is right. -/
theorem run_withMap :
    let argv := ["-m", "System.map", "trace.log"]
    undecodable.Lawful ∧ (∀ argument ∈ argv, NoNul argument)
      ∧ (∀ options, parse argv = .ok options → ReportOnly options)
      ∧ run undecodable argv = { ending := .fault (.notUtf8 "System.map") }
      ∧ ¬ Planned undecodable argv (run undecodable argv) := by
  intro argv
  have hrun : run undecodable argv = { ending := .fault (.notUtf8 "System.map") } := by
    decide +kernel
  refine ⟨lawful_undecodable, by decide, ?_, hrun, ?_⟩
  · intro options hoptions
    rw [parse_withMap] at hoptions
    injection hoptions with hoptions
    rw [← hoptions]
    exact reportOnly_withMap
  · rw [hrun]
    -- each kind of planned run ends in another way
    intro h
    cases h with
    | usage hparse houtcome =>
        rw [parse_withMap] at hparse
        cases hparse
    | reported _ _ _ hending => cases hending
    | refused _ _ hending => cases hending

/-- Without the map the same trace is reported. -/
theorem run_withoutMap :
    (∃ options, parse ["-m", "System.map", "trace.log"] = .ok options
        ∧ Indigestible undecodable options (.notUtf8 "System.map"))
      ∧ Planned undecodable ["trace.log"] (run undecodable ["trace.log"])
      ∧ (run undecodable ["trace.log"]).output
        = "                Function            \tWaste\tAlloc\treq\t\tTotAlloc     TotReq\t\tMaxAlloc     MaxReq\tMaxWaste
                --------            \t-----\t-----\t---\t\t--------     ------\t\t--------     ------\t--------
                          0xffff\t12\t32\t20\t\t      32         20\t\t      32         20\t12
" := by
  have hwith : ∀ options, parse ["-m", "System.map", "trace.log"] = .ok options
      → ReportOnly options := by
    rw [parse_withMap]
    rintro _ ⟨⟩
    exact reportOnly_withMap
  have hwithout : ∀ options, parse ["trace.log"] = .ok options → ReportOnly options := by
    rw [parse_withoutMap]
    rintro _ ⟨⟩
    exact reportOnly_withoutMap
  have htable : symbolTable undecodable withoutMap = .ok {} := rfl
  obtain ⟨noted, hexecute⟩ := execute_of_both reportOnly_withoutMap htable trace_undecodable
  have hrun : run undecodable ["trace.log"]
      = { output := Report.whole [allocationCaller] false, errorOutput := noted } := by
    unfold run
    rw [parse_withoutMap]
    simp only
    rw [hexecute]
    show writeReport (.ofTrace .all {} allocationRead) _ = _
    rw [writeReport_of_fits fits_allocationRead, ranked_allocationRead, missed_ofTrace]
    rfl
  refine ⟨?_, ?_, ?_⟩
  · apply ((run_ending lawful_undecodable (by decide) hwith .recorder).1 _).mp
    decide +kernel
  · rcases (run_ending lawful_undecodable (by decide) hwithout .recorder).2 with ⟨why, hwhy⟩ | hplanned
    · rw [hrun] at hwhy
      cases hwhy
    · exact hplanned
  · rw [hrun]
    show Report.whole [allocationCaller] false = _
    decide +kernel

end Command

end SlabWaste
