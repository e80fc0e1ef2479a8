/-
  SlabWaste.Trace.Line
  ────────────────────
  **THE LINES OF A TEXT TRACE.**

  A trace is read line by line.  A line is one of

      # tracer: NAME
      # entries-in-buffer/entries-written: KEPT/WRITTEN
      CPU:N [LOST COUNT EVENTS]
      TASK-PID (TGID) [CPU] FLAGS… SECONDS.FRACTION: SYSTEM:EVENT: FIELDS

  or something else.  In a record the thread group, the flags and the system may
  be missing, blanks separate the parts, and TASK may hold any character: the
  record begins at the first dash that makes the rest of the line fit.  Numbers
  stay digits here; what they denote is for the reader to say.
-/
import SlabWaste.Text.Scan

namespace SlabWaste.Trace

open SlabWaste.Text

/-! ## §1. Fields. -/

/-- The assignments KEY=VALUE of a text.  `key` is the key whose value is being read, and `piece`
holds the characters of the value, or of the word that may become a key, last first. -/
def assignmentsFrom (key : Option (List Char)) (piece : List Char) :
    List Char → List (String × String)
  | [] =>
      match key with
      | some k => [(String.ofList k, String.ofList piece.reverse)]
      | none => []
  | c :: s =>
      match key with
      | some k =>
          if isBlank c then
            (String.ofList k, String.ofList piece.reverse) :: assignmentsFrom none [] s
          else assignmentsFrom (some k) (c :: piece) s
      | none =>
          if isWord c then assignmentsFrom none (c :: piece) s
          else if c = '=' ∧ piece ≠ [] then assignmentsFrom (some piece.reverse) [] s
          else assignmentsFrom none [] s

/-- The assignments of a text: a key is a word right before an equals sign, a value is what follows
up to a blank, and it may be empty. -/
def assignments (s : List Char) : List (String × String) := assignmentsFrom none [] s

/-! ## §2. The end of a record line. -/

/-- A time as it is written: the digits before and after the point. -/
structure Stamp where
  whole : List Nat
  fraction : List Nat
  deriving DecidableEq, Repr

/-- What follows the blanks up to the end of the line, if nothing comes after that end. -/
def restOfLine (s : List Char) : Option (List Char) :=
  let s := trimLeft s
  let after := s.dropWhile (· != '\n')
  if after = [] ∨ after = ['\n'] then some (s.takeWhile (· != '\n')) else none

/-- A time right here, with its colon, and the rest of the line. -/
def stamp? (s : List Char) : Option (Stamp × List Char) := do
  let (whole, s) ← digits? s
  let s ← expect ['.'] s
  let (fraction, s) ← digits? s
  let s ← expect [':'] s
  return (⟨whole, fraction⟩, ← restOfLine s)

/-- The first time that stands at the start of a token; `start` says that a token may start
here. -/
def findStamp (start : Bool) : List Char → Option (Stamp × List Char)
  | [] => none
  | c :: s =>
      match if start then stamp? (c :: s) else none with
      | some found => some found
      | none => findStamp (isBlank c) s

/-! ## §3. Record lines. -/

/-- The parts of a record line after its task. -/
structure Tail where
  pid : List Nat
  cpu : List Nat
  stamp : Stamp
  /-- What follows the time. -/
  rest : List Char
  deriving DecidableEq, Repr

/-- The parts of a record line. -/
structure Parts extends Tail where
  task : List Char
  deriving DecidableEq, Repr

/-- The text after a thread group in parentheses, which may be missing. -/
def skipGroup (s : List Char) : Option (List Char) :=
  match s with
  | '(' :: s => do
      let (_, s) ← takeSome (fun c => c == '-' || isDigit c) (trimLeft s)
      let s ← expect [')'] s
      skipBlanks s
  | s => some s

/-- The parts of a record line after the dash that ends its task. -/
def tail? (s : List Char) : Option Tail := do
  let (pid, s) ← digits? s
  let s ← skipBlanks s
  let s ← skipGroup s
  let s ← expect ['['] s
  let (cpu, s) ← digits? s
  let s ← expect [']'] s
  let s ← skipBlanks s
  let (stamp, rest) ← findStamp true s
  return ⟨pid, cpu, stamp, rest⟩

/-- The task of a record line and the parts after it; `task` holds the characters of the task read
so far, last first. -/
def findDash (task : List Char) : List Char → Option (List Char × Tail)
  | [] => none
  | c :: s =>
      match if c = '-' ∧ task ≠ [] then tail? s else none with
      | some tail => some (task.reverse, tail)
      | none => if c = '\n' then none else findDash (c :: task) s

/-- The task that is a single blank, before a line that begins with its dash. -/
def blankTask (indent line : List Char) : Option (List Char × Tail) :=
  match indent.getLast?, line with
  | some c, '-' :: s => if c = '\n' then none else (tail? s).map fun tail => ([c], tail)
  | _, _ => none

/-- The parts of a record line.  The task begins at the first character that is not blank; if no
dash after it fits, that character may be the dash itself, after a task that is one blank. -/
def record? (line : List Char) : Option Parts :=
  let text := trimLeft line
  (findDash [] text <|> blankTask (line.takeWhile isBlank) text).map fun (task, tail) =>
    { tail with task := trim task }

/-! ## §4. Events. -/

/-- A word before a colon. -/
def label? (s : List Char) : Option (List Char × List Char) := do
  let (word, s) ← word? s
  let s ← expect [':'] s
  return (word, s)

/-- The event and the fields in the rest of a record line: the second of two labels in a row, or
the only one. -/
def event? (rest : List Char) : Option (List Char × List Char) := do
  let (first, s) ← label? rest
  match label? s with
  | some (second, s) => return (second, trimLeft s)
  | none => return (first, trimLeft s)

/-! ## §5. Other lines. -/

/-- The tracer that a header line names. -/
def tracer? (line : List Char) : Option (List Char) := do
  let s ← expect ['#'] line
  let s ← expect "tracer:".toList (trimLeft s)
  let (name, _) ← token? (trimLeft s)
  return name

/-- The two counts of a header line: the events kept and the events written. -/
def entries? (line : List Char) : Option (List Nat × List Nat) := do
  let s ← expect ['#'] line
  let s ← expect "entries-in-buffer/entries-written:".toList (trimLeft s)
  let (kept, s) ← digits? (trimLeft s)
  let s ← expect ['/'] s
  let (written, _) ← digits? s
  return (kept, written)

/-- The text after a colon, which may be missing. -/
def skipColon : List Char → List Char
  | ':' :: s => s
  | s => s

/-- The count of a line that tells of lost events. -/
def lost? (line : List Char) : Option (List Nat) := do
  let s ← expect "CPU".toList (trimLeft line)
  let (_, s) ← digits? (trimLeft (skipColon s))
  let s ← skipBlanks s
  let s ← expect "[LOST".toList s
  let s ← skipBlanks s
  let (count, s) ← digits? s
  let s ← skipBlanks s
  let _ ← expect "EVENTS]".toList s
  return count

/-! ## §6. Lines. -/

/-- A line of a trace. -/
inductive Line where
  /-- The header line that names the tracer. -/
  | tracer (name : String)
  /-- The header line that tells how many events the buffer kept of those written. -/
  | entries (kept written : List Nat)
  /-- A line that tells how many events were lost. -/
  | lost (count : List Nat)
  /-- A record of an event with its fields. -/
  | record (parts : Parts) (event : String) (fields : List Char)
  /-- A record that names no event; `bare` says that nothing follows its time. -/
  | nameless (bare : Bool) (shown : String)
  /-- Any other line. -/
  | other
  deriving DecidableEq, Repr

/-- What a header line says. -/
def Line.ofHeader (line : List Char) : Line :=
  match tracer? line with
  | some name => .tracer (String.ofList name)
  | none =>
      match entries? line with
      | some (kept, written) => .entries kept written
      | none => .other

/-- What a line says. -/
def Line.ofText (line : List Char) : Line :=
  if line.head? = some '#' then .ofHeader line
  else match lost? line with
    | some count => .lost count
    | none =>
        match record? line with
        | none => .other
        | some parts =>
            match event? parts.rest with
            | some (event, fields) => .record parts (String.ofList event) fields
            | none => .nameless (trim parts.rest).isEmpty (String.ofList (trim line))

end SlabWaste.Trace
