/-
  SlabWaste.Proofs.Trace.Refusal
  ──────────────────────────────
  **WHICH TRACES ARE REFUSED.**

  A trace is refused if it is a binary capture, if one of its lines offends, or
  if none of its lines counts as a record.  A line offends if it names a tracer
  whose lines have another form, or if it is a record line with nothing after its
  time and stands before the first line that counts.  Nothing else stops a reader
  but a number that is too long to be read:

      step_ofText_eq_error_iff    the lines that stop a reader
      Unusable                    the reasons to refuse a trace, in whatever order
      Reported                    the one among them that is reported

  Main result: `load_eq_refused_iff`.
-/
import SlabWaste.Proofs.Text.Scanning
import SlabWaste.Proofs.Trace.Progress

namespace SlabWaste.Trace

open SlabWaste.Text

/-! ## §1. What a line says. -/

/-- A record line with its parts: neither a header line nor one that tells of lost events. -/
structure RecordLine (text : List Char) (parts : Parts) : Prop where
  no_header : text.head? ≠ some '#'
  no_loss : lost? text = none
  has_parts : record? text = some parts

/-- A line that counts as a record: a record line that names an event, whichever it is. -/
def Counts (text : List Char) : Prop :=
  ∃ parts, RecordLine text parts ∧ (event? parts.rest).isSome = true

/-- A line that begins with the mark of headers is one. -/
theorem ofText_header {text : List Char} (h : text.head? = some '#') :
    Line.ofText text = .ofHeader text := by
  unfold Line.ofText
  rw [if_pos h]

/-- What a line with a record is depends on whether an event is named in it. -/
theorem ofText_recordLine {text : List Char} {parts : Parts} (h : RecordLine text parts) :
    Line.ofText text = match event? parts.rest with
      | some (event, fields) => .record parts (String.ofList event) fields
      | none => .nameless (trim parts.rest).isEmpty (String.ofList (trim text)) := by
  unfold Line.ofText
  cases hevent : event? parts.rest with
  | none => simp only [if_neg h.no_header, h.no_loss, h.has_parts, hevent]
  | some found => simp only [if_neg h.no_header, h.no_loss, h.has_parts, hevent]

/-- A line is a header line, one of lost events, one that says nothing, or a record line. -/
theorem ofText_cases (text : List Char) :
    text.head? = some '#' ∨ (∃ count, Line.ofText text = .lost count)
      ∨ Line.ofText text = .other ∨ ∃ parts, RecordLine text parts := by
  by_cases hheader : text.head? = some '#'
  · exact Or.inl hheader
  · right
    cases hlost : lost? text with
    | some count =>
        left
        refine ⟨count, ?_⟩
        unfold Line.ofText
        rw [if_neg hheader, hlost]
    | none =>
        right
        cases hrecord : record? text with
        | none =>
            left
            unfold Line.ofText
            rw [if_neg hheader, hlost, hrecord]
        | some parts => exact Or.inr ⟨parts, hheader, hlost, hrecord⟩

/-- What a header line can say. -/
theorem ofHeader_cases (text : List Char) :
    (∃ name, tracer? text = some name ∧ Line.ofHeader text = .tracer (String.ofList name))
      ∨ tracer? text = none ∧ ((∃ kept written, Line.ofHeader text = .entries kept written)
        ∨ Line.ofHeader text = .other) := by
  unfold Line.ofHeader
  cases htracer : tracer? text with
  | some name => exact Or.inl ⟨name, rfl, rfl⟩
  | none =>
      right
      refine ⟨rfl, ?_⟩
      cases hentries : entries? text with
      | none => exact Or.inr rfl
      | some counts => exact Or.inl ⟨counts.1, counts.2, rfl⟩

/-- Only a header line can name a tracer. -/
theorem header_of_tracer? {text name : List Char} (h : tracer? text = some name) :
    text.head? = some '#' := by
  unfold tracer? at h
  obtain ⟨rest, hrest, -⟩ := Option.bind_eq_some_iff.mp h
  rw [expect_eq_some_iff.mp hrest]
  rfl

/-- A line names a tracer just if it is of that form. -/
theorem ofText_eq_tracer_iff {text : List Char} {name : String} :
    Line.ofText text = .tracer name ↔ ∃ s, tracer? text = some s ∧ name = String.ofList s := by
  constructor
  · intro h
    -- a line that is no header is never read as one that names a tracer
    rcases ofText_cases text with hheader | ⟨count, hlost⟩ | hother | ⟨parts, hrecord⟩
    · rw [ofText_header hheader] at h
      rcases ofHeader_cases text with ⟨s, hs, hline⟩ | ⟨-, ⟨kept, written, hline⟩ | hline⟩
      · rw [hline] at h
        injection h with h
        exact ⟨s, hs, h.symm⟩
      · rw [hline] at h
        cases h
      · rw [hline] at h
        cases h
    · rw [hlost] at h
      cases h
    · rw [hother] at h
      cases h
    · rw [ofText_recordLine hrecord] at h
      cases hevent : event? parts.rest with
      | none =>
          rw [hevent] at h
          cases h
      | some found =>
          rw [hevent] at h
          cases h
  · rintro ⟨s, hs, rfl⟩
    rw [ofText_header (header_of_tracer? hs)]
    unfold Line.ofHeader
    rw [hs]

/-- A line that is a record line for the reader has parts. -/
theorem recordLine_of_ofText {text : List Char}
    (h : (∃ parts event fields, Line.ofText text = .record parts event fields)
      ∨ ∃ bare shown, Line.ofText text = .nameless bare shown) :
    ∃ parts, RecordLine text parts := by
  rcases ofText_cases text with hheader | ⟨count, hlost⟩ | hother | hrecord
  · rw [ofText_header hheader] at h
    rcases ofHeader_cases text with ⟨s, -, hline⟩ | ⟨-, ⟨kept, written, hline⟩ | hline⟩
    · simp only [hline, reduceCtorEq, exists_false, or_false] at h
    · simp only [hline, reduceCtorEq, exists_false, or_false] at h
    · simp only [hline, reduceCtorEq, exists_false, or_false] at h
  · simp only [hlost, reduceCtorEq, exists_false, or_false] at h
  · simp only [hother, reduceCtorEq, exists_false, or_false] at h
  · exact hrecord

/-- A reader counts the lines that name an event. -/
theorem isRecord_ofText_iff {text : List Char} :
    (Line.ofText text).isRecord = true ↔ Counts text := by
  constructor
  · intro h
    rcases (Line.ofText text).record_or with ⟨parts, event, fields, hline⟩ | hno
    · obtain ⟨own, hown⟩ := recordLine_of_ofText (Or.inl ⟨parts, event, fields, hline⟩)
      refine ⟨own, hown, ?_⟩
      rw [ofText_recordLine hown] at hline
      cases hevent : event? own.rest with
      | none =>
          rw [hevent] at hline
          cases hline
      | some found => rfl
    · cases hline : Line.ofText text with
      | record parts event fields => exact absurd hline (hno parts event fields)
      | _ =>
          rw [hline] at h
          cases h
  · rintro ⟨parts, hrecord, hevent⟩
    obtain ⟨found, hfound⟩ := Option.isSome_iff_exists.mp hevent
    rw [ofText_recordLine hrecord, hfound]
    rfl

/-- A text of blanks names no event. -/
theorem event?_of_trim_eq_nil {rest : List Char} (h : trim rest = []) : event? rest = none := by
  have hword : Ends isWord rest := by
    cases rest with
    | nil => exact ends_nil
    | cons c s =>
        rw [ends_cons]
        cases hblank : isBlank c with
        | true => exact (blank_class hblank).1
        | false =>
            -- the character would be left when the blanks are gone
            have hleft : trimLeft (c :: s) = c :: s := trimLeft_of_ends (ends_cons.mpr hblank)
            unfold trim at h
            rw [hleft, List.reverse_eq_nil_iff] at h
            have hall := List.dropWhile_eq_nil_iff.mp h c (by simp)
            rw [hblank] at hall
            cases hall
  unfold event? label? word?
  rw [takeSome_of_ends hword]
  rfl

/-- A bare record line is one with nothing but blanks after its time. -/
theorem ofText_eq_bare_iff {text : List Char} {shown : String} :
    Line.ofText text = .nameless true shown
      ↔ ∃ parts, RecordLine text parts ∧ trim parts.rest = []
        ∧ shown = String.ofList (trim text) := by
  constructor
  · intro h
    obtain ⟨parts, hrecord⟩ := recordLine_of_ofText (Or.inr ⟨true, shown, h⟩)
    refine ⟨parts, hrecord, ?_⟩
    rw [ofText_recordLine hrecord] at h
    cases hevent : event? parts.rest with
    | some found =>
        rw [hevent] at h
        cases h
    | none =>
        rw [hevent] at h
        injection h with hbare hshown
        exact ⟨List.isEmpty_iff.mp hbare, hshown.symm⟩
  · rintro ⟨parts, hrecord, hblank, rfl⟩
    rw [ofText_recordLine hrecord, event?_of_trim_eq_nil hblank, hblank]
    rfl

/-! ## §2. Lines that stop a reader. -/

/-- The digits in a line that a reader has to turn into numbers, in the order in which it does. -/
def Line.counts (keeps : List String) : Line → List (List Nat)
  | .entries kept written => [written, kept]
  | .lost digits => [digits]
  | .record parts event _ => if keeps.contains event then [parts.cpu, parts.pid] else []
  | _ => []

/-- The first of these numbers that has too many digits. -/
def Line.overlong? (keeps : List String) (line : Line) : Option (List Nat) :=
  (line.counts keeps).find? fun digits => decide (Numeral.digitLimit < digits.length)

/-- The number that is found to be too long is one of the line's. -/
theorem Line.long_of_overlong? {keeps : List String} {line : Line} {digits : List Nat}
    (h : line.overlong? keeps = some digits) :
    digits ∈ line.counts keeps ∧ Numeral.digitLimit < digits.length := by
  unfold Line.overlong? at h
  have hlong := List.find?_some h
  exact ⟨List.mem_of_find?_eq_some h, of_decide_eq_true hlong⟩

/-- The fault of a number with these digits, all too many. -/
def tooLong (digits : List Nat) : Fault := .number (.tooLong digits.length)

/-- A number that is too long is not read, … -/
theorem count_of_long {digits : List Nat} (h : Numeral.digitLimit < digits.length) :
    count digits = .error (tooLong digits) := by
  unfold count Numeral.ofDigits
  rw [if_pos h]
  rfl

/-- … and any other is. -/
theorem count_of_short {digits : List Nat} (h : ¬ Numeral.digitLimit < digits.length) :
    count digits = .ok (Numeral.value .ten digits) := by
  unfold count Numeral.ofDigits
  rw [if_neg h]
  rfl

/-- The first of two numbers that has too many digits, and of one. -/
theorem find?_overlong_pair (first second : List Nat) :
    [first, second].find? (fun digits => decide (Numeral.digitLimit < digits.length))
      = if Numeral.digitLimit < first.length then some first
        else if Numeral.digitLimit < second.length then some second else none := by
  by_cases hfirst : Numeral.digitLimit < first.length
  · rw [List.find?_cons_of_pos (by simpa using hfirst), if_pos hfirst]
  · rw [List.find?_cons_of_neg (by simpa using hfirst), if_neg hfirst]
    by_cases hsecond : Numeral.digitLimit < second.length
    · rw [List.find?_cons_of_pos (by simpa using hsecond), if_pos hsecond]
    · rw [List.find?_cons_of_neg (by simpa using hsecond), if_neg hsecond, List.find?_nil]

namespace Reader

/-- Counts of entries are not read just if one of them is too long, … -/
theorem stepEntries_eq_error_iff {r : Reader} {kept written : List Nat} {fault : Fault} :
    (r.stepEntries kept written).2 = .error fault
      ↔ ∃ digits, (Line.entries kept written).overlong? r.keeps = some digits
        ∧ fault = tooLong digits := by
  unfold stepEntries Line.overlong? Line.counts
  simp only [find?_overlong_pair]
  by_cases hwritten : Numeral.digitLimit < written.length
  · simp only [count_of_long hwritten, if_pos hwritten, Except.error.injEq, Option.some.injEq,
      exists_eq_left', eq_comm]
  · by_cases hkept : Numeral.digitLimit < kept.length
    · simp only [count_of_short hwritten, count_of_long hkept, if_neg hwritten, if_pos hkept,
        Except.error.injEq, Option.some.injEq, exists_eq_left', eq_comm]
    · simp only [count_of_short hwritten, count_of_short hkept, if_neg hwritten, if_neg hkept,
        reduceCtorEq, false_and, exists_false, iff_false]
      split
      · exact fun h => nomatch h
      · exact fun h => nomatch h

/-- … and a record just if its CPU or its process number is. -/
theorem stepRecord_eq_error_iff {r : Reader} {parts : Parts} {event : String}
    {fields : List Char} {fault : Fault} :
    (r.stepRecord parts event fields).2 = .error fault
      ↔ ∃ digits, (Line.record parts event fields).overlong? r.keeps = some digits
        ∧ fault = tooLong digits := by
  unfold stepRecord Line.overlong? Line.counts
  by_cases hkeeps : r.keeps.contains event = true
  · simp only [if_pos hkeeps, find?_overlong_pair]
    -- the number of the CPU is read first, so it is the one that is told
    by_cases hcpu : Numeral.digitLimit < parts.cpu.length
    · simp only [Parts.toRecord, count_of_long hcpu, if_pos hcpu, bind, Except.bind,
        Except.error.injEq, Option.some.injEq, exists_eq_left']
      exact eq_comm
    · by_cases hpid : Numeral.digitLimit < parts.pid.length
      · simp only [Parts.toRecord, count_of_short hcpu, count_of_long hpid, if_neg hcpu,
          if_pos hpid, bind, Except.bind, Except.error.injEq, Option.some.injEq, exists_eq_left']
        exact eq_comm
      · simp only [Parts.toRecord, count_of_short hcpu, count_of_short hpid, if_neg hcpu,
          if_neg hpid, bind, Except.bind, pure, Except.pure, reduceCtorEq, false_and,
          exists_false]
  · simp only [if_neg hkeeps, List.find?_nil, reduceCtorEq, false_and, exists_false]

/-- **What a reader can have against a line**: the tracer that it names, a number in it that is
too long, or that it is bare and no record was before it. -/
theorem step_eq_error_iff {r : Reader} {line : Line} {fault : Fault} :
    (r.step line).2 = .error fault
      ↔ (∃ name, line = .tracer name ∧ name ∈ latencyTracers
          ∧ fault = .refused (.latencyTracer name))
        ∨ (∃ shown, line = .nameless true shown ∧ r.seen = 0
          ∧ fault = .refused (.missingType shown))
        ∨ ∃ digits, line.overlong? r.keeps = some digits ∧ fault = tooLong digits := by
  -- one kind of line names a tracer, one has no event, and the others fail by a number at most
  cases line with
  | tracer name =>
      simp only [step, Line.overlong?, Line.counts, List.find?_nil, reduceCtorEq, false_and,
        exists_false, or_false, Line.tracer.injEq, exists_eq_left']
      by_cases hname : latencyTracers.contains name = true
      · rw [if_pos hname]
        simp only [List.contains_iff_mem.mp hname, true_and, Except.error.injEq, eq_comm]
      · rw [if_neg hname]
        rw [List.contains_iff_mem] at hname
        simp only [hname, reduceCtorEq, false_and]
  | entries kept written =>
      simp only [step, stepEntries_eq_error_iff, reduceCtorEq, false_and, exists_false, false_or]
  | lost digits =>
      simp only [step, Line.overlong?, Line.counts, reduceCtorEq, false_and, exists_false,
        false_or]
      by_cases hlong : Numeral.digitLimit < digits.length
      · rw [count_of_long hlong, List.find?_cons_of_pos (by simpa using hlong)]
        simp only [Except.error.injEq, Option.some.injEq, exists_eq_left', eq_comm]
      · rw [count_of_short hlong, List.find?_cons_of_neg (by simpa using hlong)]
        simp only [List.find?_nil, reduceCtorEq, false_and, exists_false]
  | nameless bare shown =>
      simp only [step, Line.overlong?, Line.counts, List.find?_nil, reduceCtorEq, false_and,
        exists_false, or_false, false_or, Line.nameless.injEq]
      by_cases hbare : r.seen = 0 ∧ bare = true
      · rw [if_pos hbare]
        simp only [hbare.1, hbare.2, true_and, Except.error.injEq, exists_eq_left', eq_comm]
      · rw [if_neg hbare]
        simp only [reduceCtorEq, false_iff]
        rintro ⟨_, ⟨hbare', -⟩, hseen, -⟩
        exact hbare ⟨hseen, hbare'⟩
  | record parts event fields =>
      simp only [step, stepRecord_eq_error_iff, reduceCtorEq, false_and, exists_false, false_or]
  | other =>
      simp only [step, Line.overlong?, Line.counts, List.find?_nil, reduceCtorEq, false_and,
        exists_false, or_false]

end Reader

/-! ## §3. Lines in their place. -/

/-- The lines of a trace as bytes, as they stand in it. -/
def textLines (bytes : List UInt8) : List (List Char) := lines (Utf8.decodeLossy bytes)

/-- A line for which a trace is refused, after the lines before it. -/
inductive Offends (earlier : List (List Char)) (text : List Char) : Refusal → Prop where
  /-- The header line names a tracer whose lines have another form. -/
  | latency {name : List Char} (hname : tracer? text = some name)
      (hlatency : String.ofList name ∈ latencyTracers) :
      Offends earlier text (.latencyTracer (String.ofList name))
  /-- The record line has nothing but blanks after its time, and no line before it counted. -/
  | bare {parts : Parts} (hrecord : RecordLine text parts) (hblank : trim parts.rest = [])
      (hfirst : ∀ before ∈ earlier, ¬ Counts before) :
      Offends earlier text (.missingType (String.ofList (trim text)))

/-- A line that stops a reader, and the fault that it is stopped with. -/
def Stops (keeps : List String) (earlier : List (List Char)) (text : List Char)
    (fault : Fault) : Prop :=
  (∃ why, fault = .refused why ∧ Offends earlier text why)
    ∨ ∃ digits, (Line.ofText text).overlong? keeps = some digits ∧ fault = tooLong digits

/-- No line of these stops a reader. -/
def Passes (keeps : List String) (texts : List (List Char)) : Prop :=
  ∀ earlier text later, texts = earlier ++ text :: later → ∀ fault, ¬ Stops keeps earlier text fault

namespace Reader

variable {keeps : List String}

/-- A reader that comes to the end has seen no record just when no line counts. -/
theorem seen_eq_zero_iff_counts {texts : List (List Char)} {r : Reader}
    (h : Reader.steps { keeps } (texts.map Line.ofText) = (r, none)) :
    r.seen = 0 ↔ ∀ text ∈ texts, ¬ Counts text := by
  rw [seen_eq_zero_iff h]
  simp only [List.forall_mem_map, ← Bool.not_eq_true, isRecord_ofText_iff]

/-- After lines that did not stop it, a reader is stopped by what stops any reader there. -/
theorem step_ofText_eq_error_iff {earlier : List (List Char)} {text : List Char} {r : Reader}
    {fault : Fault} (h : Reader.steps { keeps } (earlier.map Line.ofText) = (r, none)) :
    (r.step (.ofText text)).2 = .error fault ↔ Stops keeps earlier text fault := by
  -- the reader knows of the lines before only whether one of them counted
  have hseen : r.seen = 0 ↔ ∀ before ∈ earlier, ¬ Counts before := seen_eq_zero_iff_counts h
  have hkeeps : r.keeps = keeps := by
    have hsame := Reader.keeps_steps { keeps } (earlier.map Line.ofText)
    rw [h] at hsame
    exact hsame
  rw [step_eq_error_iff, hkeeps]
  constructor
  · rintro (⟨name, hline, hname, rfl⟩ | ⟨shown, hline, hzero, rfl⟩ | hlong)
    · obtain ⟨s, hs, rfl⟩ := ofText_eq_tracer_iff.mp hline
      exact Or.inl ⟨_, rfl, .latency hs hname⟩
    · obtain ⟨parts, hrecord, hblank, rfl⟩ := ofText_eq_bare_iff.mp hline
      exact Or.inl ⟨_, rfl, .bare hrecord hblank (hseen.mp hzero)⟩
    · exact Or.inr hlong
  · rintro (⟨why, rfl, hwhy⟩ | hlong)
    · cases hwhy with
      | latency hs hname => exact Or.inl ⟨_, ofText_eq_tracer_iff.mpr ⟨_, hs, rfl⟩, hname, rfl⟩
      | bare hrecord hblank hfirst =>
          exact Or.inr (Or.inl
            ⟨_, ofText_eq_bare_iff.mpr ⟨_, hrecord, hblank, rfl⟩, hseen.mpr hfirst, rfl⟩)
    · exact Or.inr (Or.inr hlong)

/-- What stops a reader is a line after others that did not. -/
theorem steps_ofText_eq_some_iff {texts : List (List Char)} {fault : Fault} :
    (Reader.steps { keeps } (texts.map Line.ofText)).2 = some fault
      ↔ ∃ earlier text later, texts = earlier ++ text :: later
        ∧ (Reader.steps { keeps } (earlier.map Line.ofText)).2 = none
        ∧ Stops keeps earlier text fault := by
  rw [steps_eq_some_iff]
  constructor
  · rintro ⟨_, _, _, s, hsplit, hearlier, hstep⟩
    obtain ⟨earlier, rest, rfl, rfl, hrest⟩ := List.map_eq_append_iff.mp hsplit
    obtain ⟨text, later, rfl, rfl, -⟩ := List.map_eq_cons_iff.mp hrest
    refine ⟨earlier, text, later, rfl, ?_, (step_ofText_eq_error_iff hearlier).mp hstep⟩
    rw [hearlier]
  · rintro ⟨earlier, text, later, rfl, hearlier, hstops⟩
    have hnone : Reader.steps { keeps } (earlier.map Line.ofText)
        = ((Reader.steps { keeps } (earlier.map Line.ofText)).1, none) := Prod.ext rfl hearlier
    refine ⟨earlier.map Line.ofText, Line.ofText text, later.map Line.ofText, _, ?_, hnone,
      (step_ofText_eq_error_iff hnone).mpr hstops⟩
    rw [List.map_append, List.map_cons]

/-- A reader comes to the end just when no line stops it. -/
theorem steps_eq_none_iff {texts : List (List Char)} :
    (Reader.steps { keeps } (texts.map Line.ofText)).2 = none ↔ Passes keeps texts := by
  constructor
  · intro h earlier text later hsplit fault hstops
    have hnone : Reader.steps { keeps } (texts.map Line.ofText)
        = ((Reader.steps { keeps } (texts.map Line.ofText)).1, none) := Prod.ext rfl h
    rw [hsplit, List.map_append, List.map_cons] at hnone
    obtain ⟨t, hearlier, hlater⟩ := exists_of_steps_append hnone
    have hstep : (t.step (.ofText text)).2 = .error fault :=
      (step_ofText_eq_error_iff hearlier).mpr hstops
    rw [steps_cons_error (Prod.ext rfl hstep)] at hlater
    exact absurd (congrArg Prod.snd hlater) (Option.some_ne_none fault)
  · intro h
    cases hsome : (Reader.steps { keeps } (texts.map Line.ofText)).2 with
    | none => rfl
    | some fault =>
        obtain ⟨earlier, text, later, hsplit, -, hstops⟩ := steps_ofText_eq_some_iff.mp hsome
        exact absurd hstops (h earlier text later hsplit fault)

/-- **What stops a reader is the first line that would stop any reader where it stands.** -/
theorem steps_eq_some_iff_stops {texts : List (List Char)} {fault : Fault} :
    (Reader.steps { keeps } (texts.map Line.ofText)).2 = some fault
      ↔ ∃ earlier text later, texts = earlier ++ text :: later ∧ Passes keeps earlier
        ∧ Stops keeps earlier text fault := by
  simp only [steps_ofText_eq_some_iff, steps_eq_none_iff]

end Reader

/-! ## §4. Files. -/

variable {fs : FileSystem} {path : String} {keeps : List String} {bytes : List UInt8}

/-- **What reading a file ends in, if in no reader**: the mark of a binary capture comes before
every line, a line that stops the reader comes before the end, and at the end there has to be a
record. -/
theorem load_eq_error_iff (hread : fs.read path = .ok bytes) {fault : Fault} :
    load fs path keeps = .error fault
      ↔ (binaryMark <+: bytes ∧ fault = .refused (.binary path))
        ∨ ¬ binaryMark <+: bytes ∧
          ((∃ earlier text later, textLines bytes = earlier ++ text :: later
              ∧ Passes keeps earlier ∧ Stops keeps earlier text fault)
            ∨ Passes keeps (textLines bytes) ∧ (∀ text ∈ textLines bytes, ¬ Counts text)
              ∧ fault = .refused (.noRecords path)) := by
  have hload : load fs path keeps = ofBytes path bytes keeps := by
    unfold load
    rw [hread]
  rw [hload, ← List.isPrefixOf_iff_prefix, ← Reader.steps_eq_some_iff_stops,
    ← Reader.steps_eq_none_iff]
  unfold ofBytes
  show _ ↔ _ ∨ _ ∧ ((Reader.steps { keeps } (linesOf bytes)).2 = _ ∨
    (Reader.steps { keeps } (linesOf bytes)).2 = _ ∧ _)
  cases hmark : binaryMark.isPrefixOf bytes with
  | true => simp only [if_true, Except.error.injEq, true_and, not_true, false_and, or_false, eq_comm]
  | false =>
      cases hsteps : Reader.steps { keeps } (linesOf bytes) with
      | mk r stopped =>
          cases stopped with
          | some other => simp
          | none =>
              have hseen : r.seen = 0 ↔ ∀ text ∈ textLines bytes, ¬ Counts text :=
                Reader.seen_eq_zero_iff_counts hsteps
              rw [← hseen]
              by_cases hzero : r.seen = 0
              · simp [hzero, eq_comm]
              · simp [hzero]

/-- No line of these offends. -/
def Unoffending (texts : List (List Char)) : Prop :=
  ∀ earlier text later, texts = earlier ++ text :: later → ∀ why, ¬ Offends earlier text why

/-- What is reported of a trace that is refused. -/
inductive Reported (path : String) (bytes : List UInt8) : Refusal → Prop where
  /-- The mark of a binary capture, before anything else. -/
  | binary (hmark : binaryMark <+: bytes) : Reported path bytes (.binary path)
  /-- The first line that offends. -/
  | line {earlier later : List (List Char)} {text : List Char} {why : Refusal}
      (hmark : ¬ binaryMark <+: bytes) (htext : textLines bytes = earlier ++ text :: later)
      (hfirst : Unoffending earlier) (hwhy : Offends earlier text why) : Reported path bytes why
  /-- That there are no records, if no line offends. -/
  | noRecords (hmark : ¬ binaryMark <+: bytes) (hnone : Unoffending (textLines bytes))
      (hempty : ∀ text ∈ textLines bytes, ¬ Counts text) : Reported path bytes (.noRecords path)

/-- Something is wrong with a trace. -/
inductive Unusable (bytes : List UInt8) : Prop where
  /-- It begins as a binary capture does. -/
  | binary (hmark : binaryMark <+: bytes)
  /-- A header line names a tracer whose lines have another form. -/
  | latency {text name : List Char} (htext : text ∈ textLines bytes)
      (hname : tracer? text = some name) (hlatency : String.ofList name ∈ latencyTracers)
  /-- A record line has nothing but blanks after its time, and no line before it counts. -/
  | bare {earlier later : List (List Char)} {text : List Char} {parts : Parts}
      (htext : textLines bytes = earlier ++ text :: later) (hrecord : RecordLine text parts)
      (hblank : trim parts.rest = []) (hfirst : ∀ before ∈ earlier, ¬ Counts before)
  /-- No line counts. -/
  | noRecords (hempty : ∀ text ∈ textLines bytes, ¬ Counts text)

/-- A line that offends makes the file unusable, … -/
theorem Offends.unusable {earlier later : List (List Char)} {text : List Char} {why : Refusal}
    (h : Offends earlier text why) (htext : textLines bytes = earlier ++ text :: later) :
    Unusable bytes := by
  cases h with
  | latency hname hlatency =>
      have hmem : text ∈ textLines bytes := by
        rw [htext]
        exact List.mem_append_right earlier List.mem_cons_self
      exact .latency hmem hname hlatency
  | bare hrecord hblank hfirst => exact .bare htext hrecord hblank hfirst

/-- … and so does whatever is reported. -/
theorem Reported.unusable {why : Refusal} (h : Reported path bytes why) : Unusable bytes := by
  cases h with
  | binary hmark => exact .binary hmark
  | line _ htext _ hwhy => exact hwhy.unusable htext
  | noRecords _ _ hempty => exact .noRecords hempty

/-- In a trace that is read nothing is wrong. -/
theorem not_unusable_of_load {r : Reader} (hread : fs.read path = .ok bytes)
    (h : load fs path keeps = .ok r) : ¬ Unusable bytes := by
  obtain ⟨own, hown, hmark, hsteps, hseen⟩ := load_eq_ok_iff.mp h
  rw [hread] at hown
  injection hown with hown
  subst hown
  have hpasses : Passes keeps (textLines bytes) :=
    Reader.steps_eq_none_iff.mp (congrArg Prod.snd hsteps)
  intro hbad
  cases hbad with
  | binary hprefix =>
      rw [List.isPrefixOf_iff_prefix.mpr hprefix] at hmark
      cases hmark
  | latency htext hname hlatency =>
      obtain ⟨earlier, later, hsplit⟩ := List.mem_iff_append.mp htext
      exact hpasses _ _ _ hsplit _ (Or.inl ⟨_, rfl, .latency hname hlatency⟩)
  | bare htext hrecord hblank hfirst =>
      exact hpasses _ _ _ htext _ (Or.inl ⟨_, rfl, .bare hrecord hblank hfirst⟩)
  | noRecords hempty => exact hseen ((Reader.seen_eq_zero_iff_counts hsteps).mpr hempty)

/-- No number in these lines is too long for a reader. -/
def NumbersFit (keeps : List String) (texts : List (List Char)) : Prop :=
  ∀ text ∈ texts, ∀ digits ∈ (Line.ofText text).counts keeps, digits.length ≤ Numeral.digitLimit

instance (keeps : List String) (texts : List (List Char)) : Decidable (NumbersFit keeps texts) :=
  inferInstanceAs (Decidable (∀ text ∈ texts, ∀ digits ∈ (Line.ofText text).counts keeps,
    digits.length ≤ Numeral.digitLimit))

/-- What holds of all lines holds of the first ones. -/
theorem NumbersFit.left {texts earlier later : List (List Char)} (h : NumbersFit keeps texts)
    (htexts : texts = earlier ++ later) : NumbersFit keeps earlier := by
  intro before hbefore
  apply h before
  rw [htexts]
  exact List.mem_append_left later hbefore

/-- Where no number is too long, lines stop a reader by offending only. -/
theorem stops_iff_offends {texts : List (List Char)}
    (hfit : NumbersFit keeps texts) {earlier later : List (List Char)} {text : List Char}
    (htexts : texts = earlier ++ text :: later) {fault : Fault} :
    Stops keeps earlier text fault ↔ ∃ why, fault = .refused why ∧ Offends earlier text why := by
  have hmem : text ∈ texts := by
    rw [htexts]
    exact List.mem_append_right earlier List.mem_cons_self
  constructor
  · rintro (h | ⟨digits, hlong, -⟩)
    · exact h
    · obtain ⟨hdigits, hmany⟩ := Line.long_of_overlong? hlong
      have hfew := hfit text hmem digits hdigits
      omega
  · exact Or.inl

/-- Where all numbers fit, lines are passed just if none of them offends. -/
theorem passes_iff_unoffending {texts : List (List Char)} (hfit : NumbersFit keeps texts) :
    Passes keeps texts ↔ Unoffending texts := by
  constructor
  · intro h earlier text later htexts why hwhy
    exact h earlier text later htexts _ (Or.inl ⟨why, rfl, hwhy⟩)
  · intro h earlier text later htexts fault hstops
    obtain ⟨why, -, hwhy⟩ := (stops_iff_offends hfit htexts).mp hstops
    exact h earlier text later htexts why hwhy

/-- **Which traces are refused, and what is reported of them.**  A file in which no number is too
long is refused just when it begins as a binary capture does, when a header line names a tracer
whose lines have another form, when a bare record line comes before every line that counts, or when
no line counts.  Any other file is read.  What is reported is the mark of a binary capture, else
the first line that offends, else that there are no records, and there is no other fault. -/
theorem load_eq_refused_iff (hread : fs.read path = .ok bytes)
    (hfit : NumbersFit keeps (textLines bytes)) :
    ((∃ why, load fs path keeps = .error (.refused why)) ↔ Unusable bytes)
      ∧ ((∃ r, load fs path keeps = .ok r) ↔ ¬ Unusable bytes)
      ∧ ∀ fault, load fs path keeps = .error fault
        ↔ ∃ why, fault = .refused why ∧ Reported path bytes why := by
  -- with numbers that fit, every line that stops the reader is one that offends
  have hfault : ∀ fault, load fs path keeps = .error fault
      ↔ ∃ why, fault = .refused why ∧ Reported path bytes why := by
    intro fault
    rw [load_eq_error_iff hread]
    constructor
    · rintro (⟨hmark, rfl⟩ | ⟨hmark, ⟨earlier, text, later, htext, hpasses, hstops⟩
        | ⟨hpasses, hempty, rfl⟩⟩)
      · exact ⟨_, rfl, .binary hmark⟩
      · obtain ⟨why, rfl, hwhy⟩ := (stops_iff_offends hfit htext).mp hstops
        have hfirst := (passes_iff_unoffending (hfit.left htext)).mp hpasses
        exact ⟨why, rfl, .line hmark htext hfirst hwhy⟩
      · exact ⟨_, rfl, .noRecords hmark ((passes_iff_unoffending hfit).mp hpasses) hempty⟩
    · rintro ⟨why, rfl, hreported⟩
      cases hreported with
      | binary hmark => exact Or.inl ⟨hmark, rfl⟩
      | line hmark htext hfirst hwhy =>
          have hpasses := (passes_iff_unoffending (hfit.left htext)).mpr hfirst
          exact Or.inr ⟨hmark, Or.inl ⟨_, _, _, htext, hpasses, Or.inl ⟨why, rfl, hwhy⟩⟩⟩
      | noRecords hmark hnone hempty =>
          exact Or.inr ⟨hmark, Or.inr ⟨(passes_iff_unoffending hfit).mpr hnone, hempty, rfl⟩⟩
  have hrefused : (∃ why, load fs path keeps = .error (.refused why)) ↔ Unusable bytes := by
    constructor
    · rintro ⟨why, hwhy⟩
      obtain ⟨_, -, hreported⟩ := (hfault _).mp hwhy
      exact hreported.unusable
    · intro hbad
      -- what loads is usable, so a fault is left, and it is one of the refusals
      cases hload : load fs path keeps with
      | ok r => exact absurd hbad (not_unusable_of_load hread hload)
      | error fault =>
          obtain ⟨why, rfl, -⟩ := (hfault fault).mp hload
          exact ⟨why, rfl⟩
  refine ⟨hrefused, ?_, hfault⟩
  constructor
  · rintro ⟨r, hr⟩
    exact not_unusable_of_load hread hr
  · intro hgood
    cases hload : load fs path keeps with
    | ok r => exact ⟨r, rfl⟩
    | error fault =>
        obtain ⟨why, -, hreported⟩ := (hfault fault).mp hload
        exact absurd hreported.unusable hgood

/-- A file with bytes that are no text, then a bare record line, then one that counts, and at its
end a header line of a latency tracer. -/
def bareFile : List UInt8 :=
  0xFF :: 0x0A :: ("cc1-1 [0] 1.5: \nld-2 [1] 2.5: sched:switch: x=1\n# tracer: wakeup\n".toList.flatMap
    String.utf8EncodeChar)

/-- A file system in which every path leads to that file. -/
def bareFiles : FileSystem where
  read _ := .ok bareFile
  refusal? _ := none

/-- **Of two lines that offend the first is reported**, though no record of the file would have
been kept. -/
theorem load_bareFile :
    let why := Refusal.missingType "cc1-1 [0] 1.5:"
    load bareFiles "trace" ["kfree"] = .error (.refused why) ∧ Reported "trace" bareFile why
      ∧ Unusable bareFile ∧ ¬ ∃ r, load bareFiles "trace" ["kfree"] = .ok r := by
  intro why
  have hfit : NumbersFit ["kfree"] (textLines bareFile) := by decide +kernel
  have hload : load bareFiles "trace" ["kfree"] = .error (.refused why) := by decide +kernel
  have hbytes : bareFiles.read "trace" = .ok bareFile := rfl
  obtain ⟨hrefused, hread, hfault⟩ := load_eq_refused_iff hbytes hfit
  have hbad : Unusable bareFile := hrefused.mp ⟨why, hload⟩
  refine ⟨hload, ?_, hbad, fun hok => hread.mp hok hbad⟩
  obtain ⟨_, hsame, hreported⟩ := (hfault _).mp hload
  injection hsame with hsame
  rw [hsame]
  exact hreported

end SlabWaste.Trace
