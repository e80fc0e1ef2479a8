/-
  SlabWaste.Trace.Reader
  ──────────────────────
  **READING A TRACE.**

  A reader goes through the lines of a trace and keeps the records of the events
  that it was told to keep.  Every record counts and takes a position, kept or
  not; lines that tell of lost events are added up; a line that shows that the
  trace cannot be used stops the reading.

      Reader.step r line       one line: the reader after it, and the record kept
      Reader.shelves r         what was kept, by CPU
      load fs path keeps       a whole file

  The reader after a line that stops the reading is of interest too, since a
  caller may go on with it.
-/
import SlabWaste.Event.Record
import SlabWaste.Fault
import SlabWaste.Number.Decimal
import SlabWaste.Text.Lines
import SlabWaste.Text.Utf8
import SlabWaste.Trace.Line

namespace SlabWaste.Trace

open SlabWaste.Text

/-! ## §1. Readers. -/

/-- The state of a reader. -/
structure Reader where
  /-- The names of the events to keep. -/
  keeps : List String
  /-- How many records there were. -/
  seen : Nat := 0
  /-- The records kept, last first. -/
  kept : List Record := []
  /-- Some line told of lost events. -/
  missed : Bool := false
  /-- How many events were lost. -/
  lost : Nat := 0
  deriving DecidableEq, Repr

/-- The tracers whose lines have another form. -/
def latencyTracers : List String :=
  ["irqsoff", "preemptoff", "preemptirqsoff", "wakeup", "wakeup_rt", "wakeup_dl"]

/-- The floating-point number nearest to a time as written. -/
def Stamp.toBinary64 (s : Stamp) : Binary64 :=
  .round ((Numeral.value .ten (s.whole ++ s.fraction) : Rat) / Binary64.tenTo s.fraction.length)

/-- A number in a trace. -/
def count (digits : List Nat) : Except Fault Nat := (Numeral.ofDigits digits).mapError .number

/-- The record of a line that is to be kept. -/
def Parts.toRecord (parts : Parts) (event : String) (fields : List Char) (seq : Nat) :
    Except Fault Record := do
  let cpu ← count parts.cpu
  let pid ← count parts.pid
  return {
    event
    fields := .ofAssignments (assignments fields)
    cpu
    timestamp := parts.stamp.toBinary64
    task := String.ofList parts.task
    pid
    seq }

/-- Put a record on the shelf of its CPU, behind those that stand there.  The first record of a CPU
gets a new shelf. -/
def shelve : List (Nat × List Record) → Record → List (Nat × List Record)
  | [], a => [(a.cpu, [a])]
  | (c, s) :: rest, a =>
      if c = a.cpu then (c, s ++ [a]) :: rest else (c, s) :: shelve rest a

namespace Reader

/-- The records kept, in file order. -/
def inFileOrder (r : Reader) : List Record := r.kept.reverse

/-- The records kept, each put on the shelf of its CPU as it came. -/
def shelves (r : Reader) : List (Nat × List Record) := r.inFileOrder.foldl shelve []

/-- Account for a record line. -/
def stepRecord (r : Reader) (parts : Parts) (event : String) (fields : List Char) :
    Reader × Except Fault (Option Record) :=
  let counted := { r with seen := r.seen + 1 }
  if r.keeps.contains event then
    match parts.toRecord event fields r.seen with
    | .error fault => (counted, .error fault)
    | .ok record => ({ counted with kept := record :: r.kept }, .ok (some record))
  else (counted, .ok none)

/-- Account for the header line that compares the events kept with those written. -/
def stepEntries (r : Reader) (kept written : List Nat) : Reader × Except Fault (Option Record) :=
  match count written with
  | .error fault => (r, .error fault)
  | .ok written =>
      match count kept with
      | .error fault => (r, .error fault)
      | .ok kept =>
          if kept < written then
            ({ r with missed := true, lost := r.lost + (written - kept) }, .ok none)
          else (r, .ok none)

/-- Account for one line: the reader after it and the record kept, if any. -/
def step (r : Reader) : Line → Reader × Except Fault (Option Record)
  | .tracer name =>
      if latencyTracers.contains name then (r, .error (.refused (.latencyTracer name)))
      else (r, .ok none)
  | .entries kept written => r.stepEntries kept written
  | .lost digits =>
      let r := { r with missed := true }
      match count digits with
      | .error fault => (r, .error fault)
      | .ok n => ({ r with lost := r.lost + n }, .ok none)
  | .nameless bare shown =>
      if r.seen = 0 ∧ bare then (r, .error (.refused (.missingType shown))) else (r, .ok none)
  | .record parts event fields => r.stepRecord parts event fields
  | .other => (r, .ok none)

/-- Account for lines up to the first that stops the reading: the reader after them, and what
stopped it. -/
def steps (r : Reader) : List Line → Reader × Option Fault
  | [] => (r, none)
  | line :: rest =>
      match r.step line with
      | (r, .error fault) => (r, some fault)
      | (r, .ok _) => steps r rest

end Reader

/-! ## §2. One line. -/

/-- A line is a record line, or it is none. -/
theorem Line.record_or (line : Line) :
    (∃ parts event fields, line = .record parts event fields)
      ∨ ∀ parts event fields, line ≠ .record parts event fields := by
  cases line with
  | record parts event fields => exact Or.inl ⟨parts, event, fields, rfl⟩
  | _ =>
      right
      intro parts event fields h
      cases h

namespace Reader

/-- A line that is kept says what its record says. -/
theorem toRecord_eq_ok_iff {parts : Parts} {event : String} {fields : List Char} {seq : Nat}
    {record : Record} :
    parts.toRecord event fields seq = .ok record
      ↔ ∃ cpu pid, count parts.cpu = .ok cpu ∧ count parts.pid = .ok pid
        ∧ record =
          { event, fields := .ofAssignments (assignments fields), cpu, pid, seq,
            timestamp := parts.stamp.toBinary64, task := String.ofList parts.task } := by
  unfold Parts.toRecord
  cases hcpu : count parts.cpu with
  | error fault => simp [bind, Except.bind]
  | ok cpu =>
      cases hpid : count parts.pid with
      | error fault => simp [bind, Except.bind]
      | ok pid =>
          simp only [bind, Except.bind, pure, Except.pure, Except.ok.injEq]
          constructor
          · intro h
            exact ⟨cpu, pid, rfl, rfl, h.symm⟩
          · rintro ⟨_, _, rfl, rfl, rfl⟩
            rfl

/-- A record has the position that it was given. -/
theorem seq_of_toRecord {parts : Parts} {event : String} {fields : List Char} {seq : Nat}
    {record : Record} (h : parts.toRecord event fields seq = .ok record) : record.seq = seq := by
  obtain ⟨_, _, -, -, rfl⟩ := toRecord_eq_ok_iff.mp h
  rfl

/-- The record that is kept last is the last in file order. -/
theorem inFileOrder_keep (r : Reader) (a : Record) (seen : Nat) :
    { r with seen := seen, kept := a :: r.kept }.inFileOrder = r.inFileOrder ++ [a] :=
  List.reverse_cons

/-- A record that is kept goes on its shelf. -/
theorem shelves_keep (r : Reader) (a : Record) (seen : Nat) :
    { r with seen := seen, kept := a :: r.kept }.shelves = shelve r.shelves a := by
  unfold shelves
  rw [inFileOrder_keep, List.foldl_append, List.foldl_cons, List.foldl_nil]

/-- A line that is no record leaves the records alone, and there is none in it. -/
theorem step_of_not_record (r : Reader) {line : Line}
    (h : ∀ parts event fields, line ≠ .record parts event fields) :
    (r.step line).1.kept = r.kept ∧ (r.step line).1.seen = r.seen
      ∧ ∀ a, (r.step line).2 ≠ .ok (some a) := by
  cases line with
  | tracer name =>
      simp only [step]
      by_cases hname : latencyTracers.contains name = true
      · rw [if_pos hname]
        exact ⟨rfl, rfl, fun a ha => by cases ha⟩
      · rw [if_neg hname]
        exact ⟨rfl, rfl, fun a ha => by cases ha⟩
  | entries kept written =>
      simp only [step, stepEntries]
      cases count written with
      | error fault => exact ⟨rfl, rfl, fun a ha => by cases ha⟩
      | ok written =>
          cases count kept with
          | error fault => exact ⟨rfl, rfl, fun a ha => by cases ha⟩
          | ok kept =>
              by_cases hless : kept < written
              · simp only [if_pos hless, true_and]
                intro a ha
                cases ha
              · simp only [if_neg hless, true_and]
                intro a ha
                cases ha
  | lost digits =>
      simp only [step]
      cases count digits with
      | error fault => exact ⟨rfl, rfl, fun a ha => by cases ha⟩
      | ok n => exact ⟨rfl, rfl, fun a ha => by cases ha⟩
  | nameless bare shown =>
      simp only [step]
      by_cases hbare : r.seen = 0 ∧ bare = true
      · rw [if_pos hbare]
        exact ⟨rfl, rfl, fun a ha => by cases ha⟩
      · rw [if_neg hbare]
        exact ⟨rfl, rfl, fun a ha => by cases ha⟩
  | record parts event fields => exact absurd rfl (h parts event fields)
  | other => exact ⟨rfl, rfl, fun a ha => by cases ha⟩

/-- **What one line can do to the records.**  If it is kept, it takes the next position, and its
event is one that is to be kept; if not, whatever else it is and whether it stops the reader or
not, it leaves the records as they were. -/
theorem step_keeps_or (r : Reader) (line : Line) :
    (∃ a, r.step line = ({ r with seen := r.seen + 1, kept := a :: r.kept }, .ok (some a))
        ∧ a.seq = r.seen ∧ a.event ∈ r.keeps)
      ∨ (∀ a, (r.step line).2 ≠ .ok (some a)) ∧ (r.step line).1.kept = r.kept := by
  rcases line.record_or with ⟨parts, event, fields, rfl⟩ | hno
  · show (∃ a, r.stepRecord parts event fields = _ ∧ _)
      ∨ (∀ a, (r.stepRecord parts event fields).2 ≠ _)
        ∧ (r.stepRecord parts event fields).1.kept = _
    unfold stepRecord
    by_cases hkeeps : r.keeps.contains event = true
    · rw [if_pos hkeeps]
      cases hrecord : parts.toRecord event fields r.seen with
      | error fault =>
          -- a number was too long, after the line had counted
          refine Or.inr ⟨fun a ha => ?_, rfl⟩
          cases ha
      | ok a =>
          obtain ⟨_, _, -, -, hsame⟩ := toRecord_eq_ok_iff.mp hrecord
          have hevent : a.event = event := by rw [hsame]
          left
          refine ⟨a, rfl, seq_of_toRecord hrecord, ?_⟩
          rw [hevent]
          exact List.contains_iff_mem.mp hkeeps
    · rw [if_neg hkeeps]
      refine Or.inr ⟨fun a ha => ?_, rfl⟩
      cases ha
  · obtain ⟨hkept, -, hnone⟩ := r.step_of_not_record hno
    exact Or.inr ⟨hnone, hkept⟩

/-- **One line and the shelves.**  A line that is kept puts its record on its shelf and takes the
next position; any other line leaves all shelves as they were. -/
theorem shelves_step (r : Reader) (line : Line) :
    (∀ a, (r.step line).2 = .ok (some a) →
        (r.step line).1.shelves = shelve r.shelves a
          ∧ (r.step line).1.kept.length = r.kept.length + 1
          ∧ a.seq = r.seen ∧ (r.step line).1.seen = r.seen + 1)
      ∧ ((∀ a, (r.step line).2 ≠ .ok (some a)) →
        (r.step line).1.shelves = r.shelves ∧ (r.step line).1.kept.length = r.kept.length) := by
  rcases r.step_keeps_or line with ⟨a, hstep, hseq, -⟩ | ⟨hnone, hkept⟩
  · rw [hstep]
    constructor
    · intro b hb
      injection hb with hb
      injection hb with hb
      subst hb
      exact ⟨r.shelves_keep a _, rfl, hseq, rfl⟩
    · intro hno
      exact absurd rfl (hno a)
  · constructor
    · intro a ha
      exact absurd ha (hnone a)
    · intro _
      unfold shelves inFileOrder
      rw [hkept]
      exact ⟨rfl, rfl⟩

end Reader

/-! ## §3. Files. -/

/-- The first bytes of a binary capture. -/
def binaryMark : List UInt8 := [0x17, 0x08, 0x44, 0x74, 0x72, 0x61, 0x63, 0x69, 0x6E, 0x67]

/-- The lines of a trace as bytes. -/
def linesOf (bytes : List UInt8) : List Line := (lines (Utf8.decodeLossy bytes)).map .ofText

/-- Read a trace that is given as bytes. -/
def ofBytes (path : String) (bytes : List UInt8) (keeps : List String) : Except Fault Reader :=
  if binaryMark.isPrefixOf bytes then .error (.refused (.binary path))
  else
    match Reader.steps { keeps } (linesOf bytes) with
    | (_, some fault) => .error fault
    | (r, none) => if r.seen = 0 then .error (.refused (.noRecords path)) else .ok r

/-- Read a trace file. -/
def load (fs : FileSystem) (path : String) (keeps : List String) : Except Fault Reader :=
  match fs.read path with
  | .error why => .error (.ofOpening (.cannotOpen path) why)
  | .ok bytes => ofBytes path bytes keeps

end SlabWaste.Trace
