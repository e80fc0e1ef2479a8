/-
  SlabWaste.Proofs.Trace.Stopping
  ───────────────────────────────
  **WHAT A LINE THAT FAILS LEAVES BEHIND.**

  A reader that is stopped by a line can be given the next one.  The line should have
  left it as it was, and a line that is refused does.  So does a header line whose
  numbers are too long, as both are read before anything is changed.  Of the other
  lines with a number that is too long

      a line of lost events     has set the mark that events were missed
      a record line             has counted

  before the number is read.  Nothing else is changed, least of all the records:

      Line.left             the reader after a line that failed
      step_fst_of_error     … which is what a failing step leaves
      left_eq_self_iff      when it is what it was

  Main result: `left_of_failure`.
-/
import SlabWaste.Proofs.Trace.Losses

namespace SlabWaste.Trace

open SlabWaste.Text

/-! ## §1. Lines. -/

/-- The reader after a line that failed. -/
def Line.left (r : Reader) : Line → Reader
  | .lost _ => { r with missed := true }
  | .record _ _ _ => { r with seen := r.seen + 1 }
  | _ => r

namespace Reader

variable {r : Reader} {fault : Fault}

/-- A header that cannot be read leaves no trace, … -/
theorem stepEntries_fst_of_error {kept written : List Nat}
    (h : (r.stepEntries kept written).2 = .error fault) : (r.stepEntries kept written).1 = r := by
  unfold stepEntries at h ⊢
  cases hwritten : count written with
  | error _ => rfl
  | ok written =>
      cases hkept : count kept with
      | error _ => rfl
      | ok kept =>
          -- both numbers were read, so nothing failed
          simp only [hwritten, hkept] at h
          split at h
          · cases h
          · cases h

/-- … and a record that cannot be read was counted before. -/
theorem stepRecord_fst_of_error {parts : Parts} {event : String} {fields : List Char}
    (h : (r.stepRecord parts event fields).2 = .error fault) :
    (r.stepRecord parts event fields).1 = { r with seen := r.seen + 1 } := by
  rcases r.stepRecord_cases parts event fields with hcounted | ⟨record, hrecord, -⟩
  · exact hcounted
  · -- with a record of its own the line does not fail
    unfold stepRecord at h
    rw [hrecord] at h
    split at h
    · cases h
    · cases h

/-- **What a line that fails leaves behind.** -/
theorem step_fst_of_error {line : Line} (h : (r.step line).2 = .error fault) :
    (r.step line).1 = line.left r := by
  cases line with
  | tracer name =>
      show (if latencyTracers.contains name then (r, Except.error _) else (r, .ok none)).1 = r
      split
      · rfl
      · rfl
  | entries kept written => exact stepEntries_fst_of_error h
  | lost digits =>
      cases hcount : count digits with
      | error _ =>
          simp only [Reader.step, hcount]
          rfl
      | ok n =>
          -- the count was read, so nothing failed
          simp only [Reader.step, hcount] at h
          cases h
  | nameless bare shown =>
      show (if r.seen = 0 ∧ bare then (r, Except.error _) else (r, .ok none)).1 = r
      split
      · rfl
      · rfl
  | record parts event fields => exact stepRecord_fst_of_error h
  | other => rfl

end Reader

/-! ## §2. Texts. -/

/-- A line of lost events, by its form. -/
def TellsLoss (text : List Char) : Prop := ∃ l : LossLayout, text = l.line

/-- A line tells of lost events just if it is read as one that does. -/
theorem tellsLoss_iff {text : List Char} :
    TellsLoss text ↔ ∃ digits, Line.ofText text = .lost digits := by
  simp only [ofText_eq_lost_iff, lost?_eq_some_iff]
  constructor
  · rintro ⟨l, rfl⟩
    exact ⟨_, l, rfl, rfl⟩
  · rintro ⟨_, l, rfl, -⟩
    exact ⟨l, rfl⟩

section left

variable (r : Reader) {text : List Char}

/-- Neither the records nor the number of lost events is changed. -/
theorem Line.left_frame (line : Line) :
    (line.left r).kept = r.kept ∧ (line.left r).streams = r.streams
      ∧ (line.left r).lost = r.lost ∧ (line.left r).keeps = r.keeps := by
  cases line with
  | _ => exact ⟨rfl, rfl, rfl, rfl⟩

/-- If its count cannot be read, that events were missed is noted already. -/
theorem left_of_tellsLoss (h : TellsLoss text) :
    (Line.ofText text).left r = { r with missed := true } := by
  obtain ⟨digits, hline⟩ := tellsLoss_iff.mp h
  rw [hline]
  rfl

/-- A record is counted before it is looked at. -/
theorem left_of_counts (h : Counts text) :
    (Line.ofText text).left r = { r with seen := r.seen + 1 } := by
  rcases (Line.ofText text).record_or with ⟨parts, event, fields, hline⟩ | hno
  · rw [hline]
    rfl
  · have hrecord := isRecord_ofText_iff.mpr h
    cases hline : Line.ofText text with
    | record parts event fields => exact absurd hline (hno parts event fields)
    | _ =>
        rw [hline] at hrecord
        cases hrecord

/-- Any other line leaves nothing behind. -/
theorem left_of_neither (hloss : ¬ TellsLoss text) (hcounts : ¬ Counts text) :
    (Line.ofText text).left r = r := by
  rw [tellsLoss_iff] at hloss
  rw [← isRecord_ofText_iff] at hcounts
  cases hline : Line.ofText text with
  | lost digits => exact absurd ⟨digits, hline⟩ hloss
  | record parts event fields =>
      rw [hline] at hcounts
      exact absurd rfl hcounts
  | _ => rfl

/-- A reader is what it was if it did not count, and had the mark if it was to set it. -/
theorem left_eq_self_iff :
    (Line.ofText text).left r = r ↔ ¬ Counts text ∧ (TellsLoss text → r.missed = true) := by
  by_cases hcounts : Counts text
  · rw [left_of_counts r hcounts]
    refine iff_of_false (fun hsame => ?_) fun hboth => hboth.1 hcounts
    have hseen : r.seen + 1 = r.seen := congrArg Reader.seen hsame
    omega
  · by_cases hloss : TellsLoss text
    · rw [left_of_tellsLoss r hloss]
      constructor
      · intro hsame
        exact ⟨hcounts, fun _ => (congrArg Reader.missed hsame).symm⟩
      · intro hboth
        rw [← hboth.2 hloss]
    · exact iff_of_true (left_of_neither r hloss hcounts) ⟨hcounts, fun hyes => absurd hyes hloss⟩

end left

/-- **What a line that fails leaves behind.**  However a reader came to be what it is, a line that
stops it changes none of its records, neither what it kept of each CPU nor their order, and not the
number of lost events.  A line of lost events has set the mark that events were missed, a line that
counts has counted, and any other line has changed nothing; so the reader is what it was just when
the line does not count, and tells of no lost events or the mark was set already.  It is what it was
whenever the trace is refused for the line, or no number in the line is too long. -/
theorem left_of_failure {r : Reader} {text : List Char} {fault : Fault}
    (h : (r.step (.ofText text)).2 = .error fault) :
    let next := (r.step (.ofText text)).1
    (next.kept = r.kept ∧ next.streams = r.streams ∧ next.lost = r.lost ∧ next.keeps = r.keeps)
      ∧ (TellsLoss text → next = { r with missed := true })
      ∧ (Counts text → next = { r with seen := r.seen + 1 })
      ∧ (¬ TellsLoss text → ¬ Counts text → next = r)
      ∧ (next = r ↔ ¬ Counts text ∧ (TellsLoss text → r.missed = true))
      ∧ ((∃ why, fault = .refused why) → next = r)
      ∧ ((Line.ofText text).overlong? r.keeps = none → next = r) := by
  intro next
  have hnext : next = (Line.ofText text).left r := Reader.step_fst_of_error h
  -- a number that is too long is the only fault that is no refusal
  have hrefused : (∃ why, fault = .refused why) → next = r := by
    rintro ⟨why, rfl⟩
    rw [hnext]
    rcases Reader.step_eq_error_iff.mp h with
      ⟨name, hline, -⟩ | ⟨shown, hline, -⟩ | ⟨digits, -, hfault⟩
    · rw [hline]
      rfl
    · rw [hline]
      rfl
    · cases hfault
  have hshort : (Line.ofText text).overlong? r.keeps = none → next = r := by
    intro hnone
    rcases Reader.step_eq_error_iff.mp h with
      ⟨name, -, -, hfault⟩ | ⟨shown, -, -, hfault⟩ | ⟨digits, hsome, -⟩
    · exact hrefused ⟨_, hfault⟩
    · exact hrefused ⟨_, hfault⟩
    · rw [hnone] at hsome
      cases hsome
  refine ⟨?_, ?_, ?_, ?_, ?_, hrefused, hshort⟩
  · rw [hnext]
    exact (Line.ofText text).left_frame r
  · intro hloss
    exact hnext.trans (left_of_tellsLoss r hloss)
  · intro hcounts
    exact hnext.trans (left_of_counts r hcounts)
  · intro hloss hcounts
    exact hnext.trans (left_of_neither r hloss hcounts)
  · rw [hnext]
    exact left_eq_self_iff r

/-- A reader that has seen a record, and kept it. -/
def oneRecord : Reader :=
  { keeps := ["kfree"], seen := 1, kept := [⟨⟨"kfree", [("ptr", "10")]⟩, 0, .round 1, "cc1", 1, 0⟩] }

/-- A header line for which the trace is refused leaves it as it was. -/
theorem left_latencyTracer :
    let text := "# tracer: wakeup\n".toList
    (oneRecord.step (.ofText text)).2 = .error (.refused (.latencyTracer "wakeup"))
      ∧ (oneRecord.step (.ofText text)).1 = oneRecord := by
  intro text
  have hfails : (oneRecord.step (.ofText text)).2 = .error (.refused (.latencyTracer "wakeup")) := by
    decide +kernel
  obtain ⟨-, -, -, -, -, hrefused, -⟩ := left_of_failure hfails
  exact ⟨hfails, hrefused ⟨_, rfl⟩⟩

/-- A line of lost events, whose count is a digit too long. -/
def longLoss : LossLayout where
  indent := []
  colon := true
  pause := []
  cpu := ⟨['0'], by decide, by decide⟩
  gap := .space
  inner := .space
  count := ⟨List.replicate (Numeral.digitLimit + 1) '1', by decide,
    fun c hc => by rw [List.eq_of_mem_replicate hc]; decide⟩
  last := .space
  rest := []
  indent_blank := nofun
  pause_blank := nofun

/-- A file system in which every path leads to a trace of one record. -/
def oneRecordFiles : FileSystem where
  read _ := .ok ("cc1-1 [0] 1.5: kfree: ptr=10\n".toList.flatMap String.utf8EncodeChar)
  refusal? _ := none

/-- **A line that fails can change a reader**: it sets the mark that events were missed, although
their number cannot be read. -/
theorem changed_longLoss :
    ∃ r, Reached r ∧ (r.step (.ofText longLoss.line)).2 = .error (.number (.tooLong 4301))
      ∧ r.missed = false ∧ (r.step (.ofText longLoss.line)).1.missed = true := by
  have hload : load oneRecordFiles "trace.log" ["kfree"]
      = .ok (Reader.steps { keeps := ["kfree"] }
        (linesOf ("cc1-1 [0] 1.5: kfree: ptr=10\n".toList.flatMap String.utf8EncodeChar))).1 :=
    eq_ok_of_toOption (by decide +kernel)
  -- a run of digits that long is not evaluated, so the line is read by its layout
  have hline : Line.ofText longLoss.line
      = .lost (List.replicate (Numeral.digitLimit + 1) 1) := by
    rw [ofText_eq_lost_iff, longLoss.lost?_line]
    exact congrArg some (List.filterMap_replicate_of_some rfl)
  have hcount : count (List.replicate (Numeral.digitLimit + 1) 1)
      = .error (.number (.tooLong 4301)) := by
    rw [count_of_long]
    · unfold tooLong
      rw [List.length_replicate]
      rfl
    · rw [List.length_replicate]
      exact Nat.lt_succ_self _
  have hstep : ∀ r : Reader, r.step (.ofText longLoss.line)
      = ({ r with missed := true }, .error (.number (.tooLong 4301))) := by
    intro r
    rw [hline]
    unfold Reader.step
    simp only [hcount]
  refine ⟨_, .loaded hload, ?_, by decide +kernel, ?_⟩
  · rw [hstep]
  · rw [hstep]

end SlabWaste.Trace
