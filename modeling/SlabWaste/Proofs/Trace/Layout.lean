/-
  SlabWaste.Proofs.Trace.Layout
  ─────────────────────────────
  **HOW A RECORD LINE MAY LOOK.**

      TASK-PID (TGID) [CPU] FLAGS… SECONDS.FRACTION: SYSTEM:EVENT: KEY=VALUE …

  A layout says what stands at each of these places and which blanks separate
  them; the thread group, the flags, the system and the assignments may be
  missing.  The task may hold blanks, colons, parentheses and dashes, the digits
  may be those of any script, and a flag is any token that does not begin with a
  time.  However a line is laid out, it is read as what it was made from:

      Layout.ofText_line    the line
      Layout.step_line      what a reader makes of it
      Reader.step_layout    and what it leaves as it was
-/
import SlabWaste.Proofs.Event.Reading
import SlabWaste.Proofs.Trace.Grammar
import SlabWaste.Proofs.Trace.Reached
import SlabWaste.Trace.Order

namespace SlabWaste.Trace

open SlabWaste.Text

/-! ## §1. The places of a line. -/

/-- The number that a run of digits denotes. -/
def number (digits : Piece isDigit) : Nat :=
  Numeral.value .ten (digits.text.filterMap digitValue?)

/-- A thread group, with the blanks in front of it and those after its parenthesis. -/
structure Group where
  indent : List Char
  id : Piece (fun c => c == '-' || isDigit c)
  gap : Piece isBlank
  indent_blank : Within isBlank indent

/-- A flag and the blanks after it. -/
structure Flag where
  token : Piece (!isBlank ·)
  gap : Piece isBlank
  plain : ¬ BeginsWithTime token.text

/-- An assignment and the blanks in front of it. -/
structure Assignment where
  gap : Piece isBlank
  key : Piece isWord
  value : List Char
  value_token : Without isBlank value

/-- What stands at each place of a record line. -/
structure Layout where
  indent : List Char
  task : List Char
  pid : Piece isDigit
  gap : Piece isBlank
  group : Option Group
  cpu : Piece isDigit
  space : Piece isBlank
  flags : List Flag
  whole : Piece isDigit
  fraction : Piece isDigit
  pause : List Char
  system : Option (Piece isWord)
  event : Piece isWord
  assignments : List Assignment
  trail : List Char

def Group.text (g : Group) : List Char := '(' :: (g.indent ++ (g.id.text ++ ')' :: g.gap.text))

def Flag.text (f : Flag) : List Char := f.token.text ++ f.gap.text

def Assignment.text (a : Assignment) : List Char := a.gap.text ++ (a.key.text ++ '=' :: a.value)

/-- The key and the value. -/
def Assignment.pair (a : Assignment) : String × String :=
  (String.ofList a.key.text, String.ofList a.value)

namespace Layout

/-- The thread group, if there is one. -/
def groupText (l : Layout) : List Char := (l.group.map Group.text).getD []

/-- The system, if there is one. -/
def systemText (l : Layout) : List Char := (l.system.map (·.text ++ [':'])).getD []

/-- What follows the colon of the event. -/
def fieldsText (l : Layout) : List Char := l.assignments.flatMap Assignment.text ++ l.trail

/-- What follows the time. -/
def body (l : Layout) : List Char := l.systemText ++ (l.event.text ++ ':' :: l.fieldsText)

/-- What follows the blanks behind the CPU. -/
def timed (l : Layout) : List Char :=
  l.flags.flatMap Flag.text ++ (l.whole.text ++ '.' :: (l.fraction.text ++ ':' ::
    (l.pause ++ l.body)))

/-- What follows the process. -/
def located (l : Layout) : List Char :=
  l.gap.text ++ (l.groupText ++ '[' :: (l.cpu.text ++ ']' :: (l.space.text ++ l.timed)))

/-- The line, without its end. -/
def line (l : Layout) : List Char := l.indent ++ (l.task ++ '-' :: (l.pid.text ++ l.located))

/-- What a layout needs beyond its pieces: the task is found by its ends and has no bracket, the
numbers are short enough to be read, and the line is one line and no header. -/
structure Written (l : Layout) : Prop where
  indent_blank : Within isBlank l.indent
  task_ne : l.task ≠ []
  task_start : Ends isBlank l.task
  task_end : Ends isBlank l.task.reverse
  task_bracket : '[' ∉ l.task
  pid_short : l.pid.text.length ≤ Numeral.digitLimit
  cpu_short : l.cpu.text.length ≤ Numeral.digitLimit
  pause_blank : Within isBlank l.pause
  trail_blank : Within isBlank l.trail
  /-- Blanks part the event from what follows, if only from the end. -/
  fields_apart : l.assignments = [] → l.trail ≠ []
  no_header : l.line.head? ≠ some '#'
  one_line : '\n' ∉ l.line

/-- The parts of the line. -/
def parts (l : Layout) : Parts where
  pid := l.pid.text.filterMap digitValue?
  cpu := l.cpu.text.filterMap digitValue?
  stamp := .ofPieces l.whole l.fraction
  rest := l.body
  task := l.task

/-- The record of the line, at a place in the file. -/
def record (l : Layout) (seq : Nat) : Record where
  event := String.ofList l.event.text
  fields := .ofAssignments (l.assignments.map Assignment.pair)
  cpu := number l.cpu
  timestamp := (Stamp.ofPieces l.whole l.fraction).toBinary64
  task := String.ofList l.task
  pid := number l.pid
  seq := seq

/-! ## §2. Where pieces end. -/

/-- The text of the fields does not go on with the name of the event. -/
theorem Written.ends_fieldsText {l : Layout} (h : l.Written) : Ends isWord l.fieldsText := by
  unfold fieldsText
  cases hfields : l.assignments with
  | nil =>
      rw [List.flatMap_nil, List.nil_append]
      intro c hc
      exact (blank_class (h.trail_blank c (List.mem_of_mem_head? hc))).1
  | cons a rest =>
      rw [List.flatMap_cons, List.append_assoc]
      unfold Assignment.text
      rw [List.append_assoc]
      exact a.gap.ends (fun c hc => (blank_class hc).1) _

theorem ends_body (l : Layout) : Ends isBlank l.body := by
  unfold body systemText
  cases l.system with
  | none => exact l.event.ends (fun c => not_blank_of_word) _
  | some system =>
      show Ends isBlank ((system.text ++ [':']) ++ _)
      rw [List.append_assoc]
      exact system.ends (fun c => not_blank_of_word) _

theorem ends_timed (l : Layout) (rest : List Char) : Ends isBlank (l.timed ++ rest) := by
  unfold timed
  cases l.flags with
  | nil =>
      rw [List.flatMap_nil, List.nil_append, List.append_assoc]
      exact l.whole.ends (fun c => not_blank_of_digit) _
  | cons f rest =>
      rw [List.flatMap_cons]
      unfold Flag.text
      simp only [List.append_assoc]
      exact f.token.ends (fun c hc => by simpa using hc) _

theorem ends_groupText (l : Layout) (rest : List Char) :
    Ends isBlank (l.groupText ++ '[' :: rest) := by
  unfold groupText
  cases l.group with
  | none => exact ends_cons.mpr (by decide)
  | some g => exact ends_cons.mpr (by decide)

/-! ## §3. The line is read as written. -/

/-- A group between task and CPU is skipped, if there is one. -/
theorem skipGroup_groupText (l : Layout) (rest : List Char) :
    skipGroup (l.groupText ++ '[' :: rest) = some ('[' :: rest) := by
  unfold groupText
  cases l.group with
  | none => rfl
  | some g =>
      -- one fact for each scanner, in the order in which they run
      have hindent : trimLeft (g.indent ++ (g.id.text ++ ')' :: (g.gap.text ++ '[' :: rest)))
          = g.id.text ++ ')' :: (g.gap.text ++ '[' :: rest) := by
        refine trimLeft_append g.indent_blank (g.id.ends (fun c hc => ?_) _)
        rcases Bool.or_eq_true _ _ ▸ hc with hdash | hdigit
        · rw [beq_iff_eq.mp hdash]
          decide
        · exact not_blank_of_digit hdigit
      have hid : takeSome (fun c => c == '-' || isDigit c)
          (g.id.text ++ ')' :: (g.gap.text ++ '[' :: rest))
            = some (g.id.text, ')' :: (g.gap.text ++ '[' :: rest)) :=
        takeSome_append g.id.ne g.id.within (ends_cons.mpr (by decide))
      have hclose : expect [')'] (')' :: (g.gap.text ++ '[' :: rest))
          = some (g.gap.text ++ '[' :: rest) := expect_append [')'] _
      have hgap : skipBlanks (g.gap.text ++ '[' :: rest) = some ('[' :: rest) :=
        skipBlanks_append g.gap.ne g.gap.within (ends_cons.mpr (by decide))
      have htext : g.text ++ '[' :: rest
          = '(' :: (g.indent ++ (g.id.text ++ ')' :: (g.gap.text ++ '[' :: rest))) := by
        simp [Group.text]
      show skipGroup (g.text ++ '[' :: rest) = _
      rw [htext]
      unfold skipGroup
      simp only [Option.bind_eq_bind, Option.bind_some, hindent, hid, hclose, hgap]

/-- Flags are no times, … -/
theorem findStamp_flags (flags : List Flag) (rest : List Char) :
    findStamp true (flags.flatMap Flag.text ++ rest) = findStamp true rest := by
  induction flags with
  | nil => rfl
  | cons f flags ih =>
      rw [List.flatMap_cons]
      unfold Flag.text at ih ⊢
      rw [List.append_assoc, List.append_assoc, findStamp_token f.token f.gap _ f.plain, ih]

/-- … so that the time of the line is the one that is found. -/
theorem findStamp_timed {l : Layout} (h : l.Written) {last : List Char}
    (hlast : last = [] ∨ last = ['\n']) :
    findStamp true (l.timed ++ last) = some (.ofPieces l.whole l.fraction, l.body) := by
  have hne : l.body ≠ [] := by
    unfold body
    simp [l.event.ne]
  have hinline : ∀ c ∈ l.body, c ≠ '\n' := by
    rintro c hc rfl
    exact h.one_line (by simp [line, located, timed, hc])
  have hrest : restOfLine (l.pause ++ (l.body ++ last)) = some l.body :=
    restOfLine_append h.pause_blank l.ends_body hne hinline hlast
  have htext : l.timed ++ last = l.flags.flatMap Flag.text ++ (l.whole.text ++ '.' ::
      (l.fraction.text ++ ':' :: (l.pause ++ (l.body ++ last)))) := by
    simp [timed]
  rw [htext, findStamp_flags]
  exact findStamp_of_stamp? (stamp?_append l.whole l.fraction hrest)

/-- **What stands behind the dash is read piece by piece.** -/
theorem tail?_located {l : Layout} (h : l.Written) {last : List Char}
    (hlast : last = [] ∨ last = ['\n']) :
    tail? (l.pid.text ++ (l.located ++ last)) = some l.parts.toTail := by
  have htext : l.pid.text ++ (l.located ++ last) = l.pid.text ++ (l.gap.text ++ (l.groupText ++
      '[' :: (l.cpu.text ++ ']' :: (l.space.text ++ (l.timed ++ last))))) := by
    simp [located]
  rw [htext]
  exact tail?_append l.pid l.cpu l.gap l.space l.skipGroup_groupText l.ends_groupText
    (l.ends_timed last) (findStamp_timed h hlast)

/-- **The whole line is read as what stands in it.** -/
theorem record?_line {l : Layout} (h : l.Written) {last : List Char}
    (hlast : last = [] ∨ last = ['\n']) : record? (l.line ++ last) = some l.parts := by
  have hline : '\n' ∉ l.task := by
    intro hmem
    exact h.one_line (by simp [line, hmem])
  have htail := tail?_located h hlast
  -- what follows the digits of the process is a blank
  obtain ⟨b, rest, hb, hrest⟩ : ∃ b rest, isBlank b = true ∧ l.located ++ last = b :: rest := by
    have hne := l.gap.ne
    have hgap := l.gap.within
    unfold located
    cases htext : l.gap.text with
    | nil => exact absurd htext hne
    | cons b t =>
        rw [htext] at hgap
        exact ⟨b, _, hgap b List.mem_cons_self, rfl⟩
  have htext : l.line ++ last = l.indent ++ (l.task ++ '-' :: (l.pid.text ++ b :: rest)) := by
    rw [← hrest]
    simp [line]
  rw [hrest] at htail
  rw [htext]
  exact record?_append h.indent_blank h.task_ne h.task_start h.task_end h.task_bracket hline
    l.pid.within hb htail

/-- A record line tells of no lost events. -/
theorem lost?_line {l : Layout} (h : l.Written) (last : List Char) :
    lost? (l.line ++ last) = none := by
  apply @lost?_of_dashFirst (l.pid.text ++ (l.located ++ last))
  refine ⟨l.indent ++ l.task, ?_, by simp [line]⟩
  intro hmem
  rcases List.mem_append.mp hmem with hmem | hmem
  · have hblank := h.indent_blank _ hmem
    revert hblank
    decide
  · exact h.task_bracket hmem

/-- Its body has an event and fields. -/
theorem event?_body {l : Layout} (h : l.Written) :
    event? l.body = some (l.event.text, trimLeft l.fieldsText) := by
  unfold body systemText
  cases l.system with
  | none => exact event?_append l.event h.ends_fieldsText
  | some system =>
      show event? ((system.text ++ [':']) ++ _) = _
      rw [List.append_assoc]
      exact event?_system system l.event l.fieldsText

/-- **The line is read as what it was made from**, whether its end is there or not. -/
theorem ofText_line {l : Layout} (h : l.Written) {last : List Char}
    (hlast : last = [] ∨ last = ['\n']) :
    Line.ofText (l.line ++ last)
      = .record l.parts (String.ofList l.event.text) (trimLeft l.fieldsText) := by
  have hne : l.line ≠ [] := by
    unfold line
    simp
  have hheader : (l.line ++ last).head? ≠ some '#' := by
    rw [List.head?_append_of_ne_nil _ hne]
    exact h.no_header
  exact ofText_record hheader (lost?_line h last) (record?_line h hlast) (event?_body h)

/-! ## §4. Fields and numbers. -/

/-- Assignments are read one by one, whatever blanks are between them. -/
theorem assignments_flatMap {trail : List Char} (htrail : Within isBlank trail)
    (as : List Assignment) :
    Trace.assignments (as.flatMap Assignment.text ++ trail) = as.map Assignment.pair := by
  induction as with
  | nil =>
      have hblanks := @assignments_blanks trail [] htrail
      rw [List.append_nil] at hblanks
      exact hblanks
  | cons a as ih =>
      -- a value ends at the blanks of the next assignment, or at those of the end
      have hends : Ends (!isBlank ·) (as.flatMap Assignment.text ++ trail) := by
        cases as with
        | nil =>
            intro c hc
            simpa using htrail c (List.mem_of_mem_head? hc)
        | cons b as =>
            rw [List.flatMap_cons]
            unfold Assignment.text
            simp only [List.append_assoc]
            exact b.gap.ends (fun c hc => by simpa using hc) _
      have htext : (a :: as).flatMap Assignment.text ++ trail = a.gap.text ++ (a.key.text ++ '=' ::
          (a.value ++ (as.flatMap Assignment.text ++ trail))) := by
        simp [Assignment.text]
      rw [htext, assignments_blanks a.gap.within, assignments_append a.key a.value_token hends, ih]
      rfl

/-- A number that is short enough is read. -/
theorem count_digits {digits : Piece isDigit} (h : digits.text.length ≤ Numeral.digitLimit) :
    count (digits.text.filterMap digitValue?) = .ok (number digits) := by
  have hlength := List.length_filterMap_le digitValue? digits.text
  unfold count
  rw [Numeral.ofDigits_of_short (by omega)]
  rfl

/-- The record of the line, at any place in the file. -/
theorem toRecord_parts {l : Layout} (h : l.Written) (seq : Nat) :
    l.parts.toRecord (String.ofList l.event.text) (trimLeft l.fieldsText) seq
      = .ok (l.record seq) := by
  rw [Reader.toRecord_eq_ok_iff]
  refine ⟨number l.cpu, number l.pid, count_digits h.cpu_short, count_digits h.pid_short, ?_⟩
  rw [assignments_trimLeft]
  unfold fieldsText
  rw [assignments_flatMap h.trail_blank]
  rfl

/-! ## §5. What a reader makes of it. -/

/-- The line counts, and if its event is to be kept then its record is. -/
theorem step_line {l : Layout} (h : l.Written) {last : List Char}
    (hlast : last = [] ∨ last = ['\n']) (r : Reader) :
    r.step (.ofText (l.line ++ last))
      = if r.keeps.contains (String.ofList l.event.text) then
          ({ r with seen := r.seen + 1, kept := l.record r.seen :: r.kept },
            .ok (some (l.record r.seen)))
        else ({ r with seen := r.seen + 1 }, .ok none) := by
  rw [ofText_line h hlast]
  show r.stepRecord _ _ _ = _
  unfold Reader.stepRecord
  simp only [toRecord_parts h]

end Layout

namespace Reader

/-- One more record comes to the end of the stream of its CPU. -/
theorem stream_cons (r : Reader) (record : Record) (seen c : Nat) :
    ({ r with seen := seen, kept := record :: r.kept } : Reader).stream c
      = if record.cpu = c then r.stream c ++ [record] else r.stream c := by
  unfold stream inFileOrder
  rw [List.reverse_cons, List.filter_append]
  by_cases hcpu : record.cpu = c
  · rw [if_pos hcpu, List.filter_cons_of_pos (by simpa using hcpu), List.filter_nil]
  · rw [if_neg hcpu, List.filter_cons_of_neg (by simpa using hcpu), List.filter_nil,
      List.append_nil]

/-- **A record line means what it was made from, in every state of a reader.**  If its event is to
be kept, the stream of its CPU has one more record at its end, and that is the record of the line;
all other streams, and what is known of losses, stay as they were.  If it is not, the line counts
and leaves no other trace.  Each field of the record has the value that was assigned last. -/
theorem step_layout {l : Layout} (h : l.Written) {last : List Char}
    (hlast : last = [] ∨ last = ['\n']) (r : Reader) :
    let record := l.record r.seen
    let s := (r.step (.ofText (l.line ++ last))).1
    (record.event ∈ r.keeps →
        (r.step (.ofText (l.line ++ last))).2 = .ok (some record)
          ∧ s = { r with seen := r.seen + 1, kept := record :: r.kept }
          ∧ s.stream record.cpu = r.stream record.cpu ++ [record]
          ∧ ∀ c, c ≠ record.cpu → s.stream c = r.stream c)
      ∧ (record.event ∉ r.keeps →
          r.step (.ofText (l.line ++ last)) = ({ r with seen := r.seen + 1 }, .ok none))
      ∧ (record.fields.map (·.1)).Nodup
      ∧ ∀ key, record.fields.lookup key
          = (l.assignments.map Assignment.pair).reverse.lookup key := by
  intro record s
  have hstep := l.step_line h hlast r
  -- whether the record is kept is asked by its event alone
  refine ⟨?_, ?_, Fields.nodup_ofAssignments _, Fields.lookup_ofAssignments _⟩
  · intro hkeep
    have hkeep : String.ofList l.event.text ∈ r.keeps := hkeep
    rw [if_pos (List.contains_iff_mem.mpr hkeep)] at hstep
    have hs : s = { r with seen := r.seen + 1, kept := record :: r.kept } := congrArg (·.1) hstep
    refine ⟨congrArg (·.2) hstep, hs, ?_, ?_⟩
    · rw [hs, stream_cons, if_pos rfl]
    · intro c hc
      rw [hs, stream_cons, if_neg (Ne.symm hc)]
  · intro hkeep
    have hkeep : String.ofList l.event.text ∉ r.keeps := hkeep
    rw [if_neg fun hmem => hkeep (List.contains_iff_mem.mp hmem)] at hstep
    exact hstep

/-- A line with all that a record line may have: dashes and blanks in the task, a thread group, two
flags, a system, and a key that is assigned twice. -/
def fullLayout : Layout where
  indent := [' ', ' ']
  task := "kworker/u8-3 (-1:2".toList
  pid := ⟨"402".toList, by decide, by decide⟩
  gap := .space
  group := some ⟨[' '], ⟨"--".toList, by decide, by decide⟩, ⟨[' ', '\t'], by decide, by decide⟩,
    Piece.space.within⟩
  cpu := ⟨"003".toList, by decide, by decide⟩
  space := .space
  flags :=
    [⟨⟨"d..1".toList, by decide, by decide⟩, .space,
        not_beginsWithTime (ends_cons.mpr (by decide))⟩,
      ⟨⟨".5:".toList, by decide, by decide⟩, .space,
        not_beginsWithTime (ends_cons.mpr (by decide))⟩]
  whole := ⟨"76".toList, by decide, by decide⟩
  fraction := ⟨"50".toList, by decide, by decide⟩
  pause := [' ']
  system := some ⟨"kmem".toList, by decide, by decide⟩
  event := ⟨"kfree".toList, by decide, by decide⟩
  assignments :=
    [⟨.space, ⟨"ptr".toList, by decide, by decide⟩, "a=1".toList, by decide⟩,
      ⟨.space, ⟨"to".toList, by decide, by decide⟩, [], by decide⟩,
      ⟨.space, ⟨"ptr".toList, by decide, by decide⟩, "b".toList, by decide⟩]
  trail := []

/-- Everything of it is found, and the value that `ptr` has at last. -/
theorem step_fullLayout :
    let record : Record :=
      { event := "kfree", fields := [("ptr", "b"), ("to", "")], cpu := 3,
        timestamp := .finite (153 / 2), task := "kworker/u8-3 (-1:2", pid := 402, seq := 0 }
    fullLayout.line
        = ("  kworker/u8-3 (-1:2-402 ( --) \t[003] d..1 .5: 76.50: kmem:kfree: ptr=a=1 to= "
            ++ "ptr=b").toList
      ∧ fullLayout.Written
      ∧ (step { keeps := ["kfree"] } (.ofText (fullLayout.line ++ ['\n']))).1.stream 3 = [record]
      ∧ (step { keeps := [] } (.ofText (fullLayout.line ++ ['\n']))).1 = { keeps := [], seen := 1 }
      := by
  intro record
  have hwritten : fullLayout.Written := by
    constructor
    all_goals decide +kernel
  have hrecord : fullLayout.record 0 = record := by decide +kernel
  obtain ⟨hkept, -⟩ := step_layout hwritten (Or.inr rfl) { keeps := ["kfree"] }
  obtain ⟨-, hleft, -⟩ := step_layout hwritten (Or.inr rfl) { keeps := [] }
  obtain ⟨-, -, hstream, -⟩ := hkept (by decide)
  refine ⟨by decide, hwritten, ?_, congrArg (·.1) (hleft (by decide))⟩
  rw [← hrecord]
  exact hstream

end Reader

end SlabWaste.Trace
