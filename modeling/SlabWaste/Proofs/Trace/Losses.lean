/-
  SlabWaste.Proofs.Trace.Losses
  ─────────────────────────────
  **LINES THAT TELL OF LOST EVENTS.**

      CPU:N [LOST COUNT EVENTS]
      # entries-in-buffer/entries-written: KEPT/WRITTEN

  The first tells of COUNT lost events, even if that is none; the second of
  WRITTEN - KEPT, if that is any.  In the first the colon may be missing, blanks
  may stand in front of it, and anything behind it; the digits may be those of any
  script.  A reader notes each of them, wherever it stands, and nothing else:

      lost?_eq_some_iff, entries?_eq_some_iff    the two forms
      told?_eq_some_iff                          what a line tells
      Reader.loss_step, Reader.loss_steps        one line, all lines

  Main result: `loss_of_load`.
-/
import SlabWaste.Proofs.Trace.Layout
import SlabWaste.Proofs.Trace.Refusal

namespace SlabWaste.Trace

open SlabWaste.Text

/-! ## §1. How a line of lost events may look. -/

/-- What stands at each place of a line of lost events. -/
structure LossLayout where
  indent : List Char
  colon : Bool
  pause : List Char
  cpu : Piece isDigit
  gap : Piece isBlank
  inner : Piece isBlank
  count : Piece isDigit
  last : Piece isBlank
  rest : List Char
  indent_blank : Within isBlank indent
  pause_blank : Within isBlank pause

namespace LossLayout

/-- The colon, if there is one. -/
def colonText (l : LossLayout) : List Char := if l.colon then [':'] else []

/-- What follows the opening bracket. -/
def told (l : LossLayout) : List Char :=
  l.inner.text ++ (l.count.text ++ (l.last.text ++ ("EVENTS]".toList ++ l.rest)))

/-- What follows the colon. -/
def located (l : LossLayout) : List Char :=
  l.pause ++ (l.cpu.text ++ (l.gap.text ++ ("[LOST".toList ++ l.told)))

/-- The line. -/
def line (l : LossLayout) : List Char :=
  l.indent ++ ("CPU".toList ++ (l.colonText ++ l.located))

end LossLayout

theorem skipColon_append {rest : List Char} (hrest : Ends (· == ':') rest) (colon : Bool) :
    skipColon ((if colon then [':'] else []) ++ rest) = rest := by
  cases colon with
  | true => rfl
  | false =>
      cases rest with
      | nil => rfl
      | cons c s =>
          have hc : c ≠ ':' := by simpa using hrest
          unfold skipColon
          split
          · next heq =>
              injection heq with heq
              exact absurd heq hc
          · rfl

theorem exists_of_skipColon (s : List Char) :
    ∃ colon : Bool, s = (if colon then [':'] else []) ++ skipColon s := by
  unfold skipColon
  split
  · exact ⟨true, rfl⟩
  · exact ⟨false, rfl⟩

/-- A colon is neither a blank nor a digit. -/
theorem ne_colon_of_class {c : Char} (h : isBlank c = true ∨ isDigit c = true) :
    (c == ':') = false := by
  rw [beq_eq_false_iff_ne]
  rintro rfl
  revert h
  decide

namespace LossLayout

/-- A line of this layout tells how many events were lost. -/
theorem lost?_line (l : LossLayout) :
    lost? l.line = some (l.count.text.filterMap digitValue?) := by
  have hblank : ∀ c, isDigit c = true → isBlank c = false := fun c => not_blank_of_digit
  have hdigit : ∀ c, isBlank c = true → isDigit c = false := fun c hc => (blank_class hc).2
  -- one fact for each scanner, in the order in which they run
  have hindent : trimLeft l.line = "CPU".toList ++ (l.colonText ++ l.located) :=
    trimLeft_append l.indent_blank (ends_cons.mpr (by decide))
  have hcolon : skipColon (l.colonText ++ l.located) = l.located := by
    apply skipColon_append
    exact l.pause_blank.ends_append (fun c hc => ne_colon_of_class (Or.inl hc))
      (l.cpu.ends (fun c hc => ne_colon_of_class (Or.inr hc)) _)
  have hpause : trimLeft l.located = l.cpu.text ++ (l.gap.text ++ ("[LOST".toList ++ l.told)) :=
    trimLeft_append l.pause_blank (l.cpu.ends hblank _)
  have hgap : skipBlanks (l.gap.text ++ ("[LOST".toList ++ l.told))
      = some ("[LOST".toList ++ l.told) :=
    skipBlanks_append l.gap.ne l.gap.within (ends_cons.mpr (by decide))
  have hinner : skipBlanks l.told
      = some (l.count.text ++ (l.last.text ++ ("EVENTS]".toList ++ l.rest))) :=
    skipBlanks_append l.inner.ne l.inner.within (l.count.ends hblank _)
  have hlast : skipBlanks (l.last.text ++ ("EVENTS]".toList ++ l.rest))
      = some ("EVENTS]".toList ++ l.rest) :=
    skipBlanks_append l.last.ne l.last.within (ends_cons.mpr (by decide))
  unfold lost?
  simp only [Option.bind_eq_bind, Option.bind_some, Option.pure_def, expect_append, hindent, hcolon,
    hpause, l.cpu.digits?_append (l.gap.ends hdigit _), hgap, hinner,
    l.count.digits?_append (l.last.ends hdigit _), hlast]

end LossLayout

/-- The lines of lost events, and the digits of their count. -/
theorem lost?_eq_some_iff {text : List Char} {digits : List Nat} :
    lost? text = some digits
      ↔ ∃ l : LossLayout, text = l.line ∧ digits = l.count.text.filterMap digitValue? := by
  constructor
  · intro h
    unfold lost? at h
    -- each step of the scanner takes one part of the line off
    simp only [Option.bind_eq_bind, Option.bind_eq_some_iff, expect_eq_some_iff,
      digits?_eq_some_iff, skipBlanks_eq_some_iff, Prod.exists, Option.pure_def,
      Option.some.injEq] at h
    obtain ⟨after, hcpu, _, _, ⟨cpu, hnumber, -, -⟩, _, ⟨gap, rfl, -⟩, _, rfl, _, ⟨inner, rfl, -⟩,
      _, _, ⟨count, rfl, -, rfl⟩, _, ⟨last, rfl, -⟩, rest, rfl, rfl⟩ := h
    obtain ⟨indent, hindent, htext, -⟩ := exists_of_trimLeft text
    obtain ⟨colon, hafter⟩ := exists_of_skipColon after
    obtain ⟨pause, hpause, hpaused, -⟩ := exists_of_trimLeft (skipColon after)
    refine ⟨⟨indent, colon, pause, cpu, gap, inner, count, last, rest, hindent, hpause⟩, ?_, rfl⟩
    rw [htext, hcpu, hafter, hpaused, hnumber]
    rfl
  · rintro ⟨l, rfl, rfl⟩
    exact l.lost?_line

/-! ## §2. How a line of entries may look. -/

/-- What stands at each place of the header line that compares the events kept with those
written. -/
structure EntriesLayout where
  pause : List Char
  gap : List Char
  kept : Piece isDigit
  written : Piece isDigit
  rest : List Char
  pause_blank : Within isBlank pause
  gap_blank : Within isBlank gap
  rest_ends : Ends isDigit rest

namespace EntriesLayout

/-- What follows the title. -/
def compared (e : EntriesLayout) : List Char :=
  e.gap ++ (e.kept.text ++ '/' :: (e.written.text ++ e.rest))

/-- The line. -/
def line (e : EntriesLayout) : List Char :=
  '#' :: (e.pause ++ ("entries-in-buffer/entries-written:".toList ++ e.compared))

theorem trimLeft_pause (e : EntriesLayout) :
    trimLeft (e.pause ++ ("entries-in-buffer/entries-written:".toList ++ e.compared))
      = "entries-in-buffer/entries-written:".toList ++ e.compared :=
  trimLeft_append e.pause_blank (ends_cons.mpr (by decide))

/-- A header of this layout tells how many entries there were, and how many are left. -/
theorem entries?_line (e : EntriesLayout) :
    entries? e.line
      = some (e.kept.text.filterMap digitValue?, e.written.text.filterMap digitValue?) := by
  have hmark : expect ['#'] e.line
      = some (e.pause ++ ("entries-in-buffer/entries-written:".toList ++ e.compared)) :=
    expect_append ['#'] _
  have hgap : trimLeft e.compared = e.kept.text ++ '/' :: (e.written.text ++ e.rest) :=
    trimLeft_append e.gap_blank (e.kept.ends (fun c => not_blank_of_digit) _)
  have hslash : expect ['/'] ('/' :: (e.written.text ++ e.rest))
      = some (e.written.text ++ e.rest) :=
    expect_append ['/'] _
  have hkept : digits? (e.kept.text ++ '/' :: (e.written.text ++ e.rest))
      = some (e.kept.text.filterMap digitValue?, '/' :: (e.written.text ++ e.rest)) :=
    e.kept.digits?_append (ends_cons.mpr (by decide))
  unfold entries?
  simp only [Option.bind_eq_bind, Option.bind_some, Option.pure_def, hmark, e.trimLeft_pause,
    expect_append, hgap, hkept, hslash, e.written.digits?_append e.rest_ends]

theorem tracer?_line (e : EntriesLayout) : tracer? e.line = none := by
  have hmark : expect ['#'] e.line
      = some (e.pause ++ ("entries-in-buffer/entries-written:".toList ++ e.compared)) :=
    expect_append ['#'] _
  unfold tracer?
  rw [hmark]
  show (expect "tracer:".toList (trimLeft _)).bind _ = none
  rw [e.trimLeft_pause]
  rfl

end EntriesLayout

/-- The lines of entries, and the digits of their two counts. -/
theorem entries?_eq_some_iff {text : List Char} {kept written : List Nat} :
    entries? text = some (kept, written)
      ↔ ∃ e : EntriesLayout, text = e.line ∧ kept = e.kept.text.filterMap digitValue?
        ∧ written = e.written.text.filterMap digitValue? := by
  constructor
  · intro h
    unfold entries? at h
    simp only [Option.bind_eq_bind, Option.bind_eq_some_iff, expect_eq_some_iff,
      digits?_eq_some_iff, Prod.exists, Option.pure_def, Option.some.injEq, Prod.mk.injEq] at h
    obtain ⟨after, rfl, titled, htitle, _, _, ⟨keptRun, hkept, -, rfl⟩, _, rfl, _, rest,
      ⟨writtenRun, rfl, hrest, rfl⟩, rfl, rfl⟩ := h
    obtain ⟨pause, hpause, hafter, -⟩ := exists_of_trimLeft after
    obtain ⟨gap, hgap, htitled, -⟩ := exists_of_trimLeft titled
    refine ⟨⟨pause, gap, keptRun, writtenRun, rest, hpause, hgap, hrest⟩, ?_, rfl, rfl⟩
    rw [hafter, htitle, htitled, hkept]
    rfl
  · rintro ⟨e, rfl, rfl, rfl⟩
    exact e.entries?_line

/-! ## §3. Lines that tell of lost events. -/

/-- The line tells of this many lost events. -/
inductive Tells (text : List Char) : Nat → Prop where
  /-- It says so, even if there are none. -/
  | lost {l : LossLayout} (htext : text = l.line) : Tells text (number l.count)
  /-- Fewer events were kept than written. -/
  | overwritten {e : EntriesLayout} (htext : text = e.line)
      (hless : number e.kept < number e.written) : Tells text (number e.written - number e.kept)

/-- How many lost events a line tells of, if it tells of any. -/
def Line.loss? : Line → Option Nat
  | .lost digits => some (Numeral.value .ten digits)
  | .entries kept written =>
      let kept := Numeral.value .ten kept
      let written := Numeral.value .ten written
      if kept < written then some (written - kept) else none
  | _ => none

/-- How many lost events a text tells of, if it tells of any. -/
def told? (text : List Char) : Option Nat := (Line.ofText text).loss?

/-- A line of lost events is no header line. -/
theorem LossLayout.no_header (l : LossLayout) : l.line.head? ≠ some '#' := by
  -- it begins with a blank or with its CPU
  have hends : Ends (· == '#') l.line := by
    refine l.indent_blank.ends_append (fun c hc => ?_) (ends_cons.mpr (by decide))
    rw [beq_eq_false_iff_ne]
    rintro rfl
    revert hc
    decide
  intro hhead
  have hbad := hends '#' hhead
  revert hbad
  decide

/-- A line counts as one of lost events just if it is of their layout, … -/
theorem ofText_eq_lost_iff {text : List Char} {digits : List Nat} :
    Line.ofText text = .lost digits ↔ lost? text = some digits := by
  -- a header is never such a line, and of the other lines it is the first kind to be tried
  by_cases hheader : text.head? = some '#'
  · have hno : lost? text ≠ some digits := by
      intro hlost
      obtain ⟨l, rfl, -⟩ := lost?_eq_some_iff.mp hlost
      exact l.no_header hheader
    rw [ofText_header hheader, iff_false_right hno]
    rcases ofHeader_cases text with ⟨name, -, hline⟩ | ⟨-, ⟨kept, written, hline⟩ | hline⟩
    · simp [hline]
    · simp [hline]
    · simp [hline]
  · unfold Line.ofText
    rw [if_neg hheader]
    cases hlost : lost? text with
    | some found => simp
    | none =>
        cases hrecord : record? text with
        | none => simp
        | some parts =>
            cases hevent : event? parts.rest with
            | none => simp [hevent]
            | some found => simp [hevent]

/-- … and as one that counts entries just if it is of that one. -/
theorem ofText_eq_entries_iff {text : List Char} {kept written : List Nat} :
    Line.ofText text = .entries kept written ↔ entries? text = some (kept, written) := by
  constructor
  · intro h
    rcases ofText_cases text with hheader | ⟨digits, hlost⟩ | hother | ⟨parts, hrecord⟩
    · rw [ofText_header hheader] at h
      unfold Line.ofHeader at h
      cases htracer : tracer? text with
      | some name => simp [htracer] at h
      | none =>
          cases hentries : entries? text with
          | none => simp [htracer, hentries] at h
          | some counts =>
              rw [htracer, hentries] at h
              injection h with hkept hwritten
              rw [← hkept, ← hwritten]
    · rw [hlost] at h
      cases h
    · rw [hother] at h
      cases h
    · rw [ofText_recordLine hrecord] at h
      cases hevent : event? parts.rest with
      | none => simp [hevent] at h
      | some found => simp [hevent] at h
  · intro h
    obtain ⟨e, rfl, -, -⟩ := entries?_eq_some_iff.mp h
    rw [ofText_header rfl]
    unfold Line.ofHeader
    rw [e.tracer?_line, h]

/-- **The lines that tell of lost events are those that a reader takes for them.** -/
theorem told?_eq_some_iff {text : List Char} {n : Nat} : told? text = some n ↔ Tells text n := by
  unfold told?
  constructor
  · intro h
    -- of the kinds of lines two tell of a loss, a header only where the counts differ
    cases hline : Line.ofText text with
    | lost digits =>
        obtain ⟨l, htext, rfl⟩ := lost?_eq_some_iff.mp (ofText_eq_lost_iff.mp hline)
        rw [hline] at h
        injection h with h
        rw [← h]
        exact .lost htext
    | entries kept written =>
        obtain ⟨e, htext, rfl, rfl⟩ := entries?_eq_some_iff.mp (ofText_eq_entries_iff.mp hline)
        rw [hline] at h
        have h : (if number e.kept < number e.written then
          some (number e.written - number e.kept) else none) = some n := h
        split at h
        · next hless =>
            injection h with h
            rw [← h]
            exact .overwritten htext hless
        · cases h
    | _ =>
        rw [hline] at h
        cases h
  · intro h
    cases h with
    | lost htext =>
        rw [ofText_eq_lost_iff.mpr (lost?_eq_some_iff.mpr ⟨_, htext, rfl⟩)]
        rfl
    | overwritten htext hless =>
        rw [ofText_eq_entries_iff.mpr (entries?_eq_some_iff.mpr ⟨_, htext, rfl, rfl⟩)]
        exact if_pos hless

/-! ## §4. What a reader makes of them. -/

/-- A count that is read is the number that its digits denote. -/
theorem count_eq_ok {digits : List Nat} {n : Nat} (h : count digits = .ok n) :
    n = Numeral.value .ten digits := by
  by_cases hlong : Numeral.digitLimit < digits.length
  · rw [count_of_long hlong] at h
    cases h
  · rw [count_of_short hlong] at h
    injection h with h
    exact h.symm

/-- The numbers that a reader compares are those that the line tells. -/
theorem Line.loss?_entries {kept written : List Nat} {few many : Nat} (hkept : count kept = .ok few)
    (hwritten : count written = .ok many) :
    (Line.entries kept written).loss? = if few < many then some (many - few) else none := by
  rw [count_eq_ok hkept, count_eq_ok hwritten]
  rfl

namespace Reader

/-- A line after which a reader goes on is noted if it tells of lost events, and they are added. -/
theorem loss_step {r s : Reader} {line : Line} {found : Option Record}
    (h : r.step line = (s, .ok found)) :
    s.missed = (r.missed || line.loss?.isSome) ∧ s.lost = r.lost + line.loss?.getD 0 := by
  -- most lines leave both as they are
  have hsame : s.missed = r.missed → s.lost = r.lost → line.loss? = none →
      s.missed = (r.missed || line.loss?.isSome) ∧ s.lost = r.lost + line.loss?.getD 0 := by
    intro hmissed hlost hnone
    rw [hmissed, hlost, hnone]
    exact ⟨(Bool.or_false _).symm, rfl⟩
  cases line with
  | tracer name =>
      simp only [step] at h
      split at h
      · -- a reader does not go on
        cases h
      · injection h with hs
        rw [← hs] at hsame ⊢
        exact hsame rfl rfl rfl
  | entries kept written =>
      simp only [step, stepEntries] at h
      cases hwritten : count written with
      | error fault =>
          rw [hwritten] at h
          cases h
      | ok many =>
          cases hkept : count kept with
          | error fault =>
              rw [hwritten, hkept] at h
              cases h
          | ok few =>
              rw [hwritten, hkept] at h
              have hloss := Line.loss?_entries hkept hwritten
              by_cases hless : few < many
              · simp only [if_pos hless] at h
                injection h with hs
                rw [← hs, hloss, if_pos hless]
                exact ⟨(Bool.or_true _).symm, rfl⟩
              · simp only [if_neg hless] at h
                injection h with hs
                rw [← hs] at hsame ⊢
                exact hsame rfl rfl (hloss.trans (if_neg hless))
  | lost digits =>
      simp only [step] at h
      cases hcount : count digits with
      | error fault =>
          rw [hcount] at h
          cases h
      | ok n =>
          rw [hcount] at h
          injection h with hs
          rw [← hs, count_eq_ok hcount]
          exact ⟨(Bool.or_true _).symm, rfl⟩
  | nameless bare shown =>
      simp only [step] at h
      split at h
      · cases h
      · injection h with hs
        rw [← hs] at hsame ⊢
        exact hsame rfl rfl rfl
  | record parts event fields =>
      have hs : (r.stepRecord parts event fields).1 = s := congrArg Prod.fst h
      rcases r.stepRecord_cases parts event fields with hcase | ⟨record, -, hcase⟩
      · rw [← hs, hcase] at hsame ⊢
        exact hsame rfl rfl rfl
      · rw [← hs, hcase] at hsame ⊢
        exact hsame rfl rfl rfl
  | other =>
      injection h with hs
      rw [← hs] at hsame ⊢
      exact hsame rfl rfl rfl

/-- **A reader that comes to the end has noted every line that tells of lost events**, wherever it
stands. -/
theorem loss_steps {r s : Reader} {lines : List Line} (h : r.steps lines = (s, none)) :
    s.missed = (r.missed || lines.any fun line => line.loss?.isSome)
      ∧ s.lost = r.lost + (lines.filterMap Line.loss?).sum := by
  induction lines generalizing r with
  | nil =>
      injection h with h
      rw [← h]
      exact ⟨(Bool.or_false _).symm, rfl⟩
  | cons line lines ih =>
      cases hline : r.step line with
      | mk next result =>
          cases result with
          | error fault =>
              rw [steps_cons_error hline] at h
              cases h
          | ok found =>
              rw [steps_cons_ok hline] at h
              -- one line, then all that follow it
              obtain ⟨hmissed, hlost⟩ := ih h
              obtain ⟨hfirst, hmore⟩ := loss_step hline
              constructor
              · rw [hmissed, hfirst, List.any_cons, Bool.or_assoc]
              · rw [hlost, hmore, Nat.add_assoc]
                cases hloss : line.loss? with
                | none => rw [List.filterMap_cons_none hloss, Option.getD_none, Nat.zero_add]
                | some n => rw [List.filterMap_cons_some hloss, List.sum_cons, Option.getD_some]

end Reader

/-! ## §5. Files. -/

variable {bytes : List UInt8}

/-- What the lines of a file tell, one after the other. -/
def toldBy (bytes : List UInt8) : List Nat := (textLines bytes).filterMap told?

/-- Some line of the file tells of lost events, if only that there are none. -/
def Lossy (bytes : List UInt8) : Prop := ∃ text ∈ textLines bytes, ∃ n, Tells text n

theorem lossy_iff : Lossy bytes ↔ toldBy bytes ≠ [] := by
  unfold Lossy toldBy
  simp only [ne_eq, List.filterMap_eq_nil_iff, not_forall, ← Option.ne_none_iff_exists',
    ← told?_eq_some_iff, exists_prop]

/-- It does not matter where the lines stand that tell of lost events. -/
theorem lossy_of_perm {moved : List UInt8} (h : (toldBy moved).Perm (toldBy bytes)) :
    Lossy moved ↔ Lossy bytes := by
  rw [lossy_iff, lossy_iff, ← List.length_pos_iff, ← List.length_pos_iff, h.length_eq]

/-- **What a trace that is read says of lost events**: the sum of what its lines tell, and whether
any of them tells of some, whatever was to be kept. -/
theorem loss_of_load {fs : FileSystem} {path : String} {keeps : List String} {r : Reader}
    (hread : fs.read path = .ok bytes) (h : load fs path keeps = .ok r) :
    (r.missed = true ↔ Lossy bytes) ∧ r.lost = (toldBy bytes).sum := by
  obtain ⟨own, hown, -, hsteps, -⟩ := load_eq_ok_iff.mp h
  rw [hread] at hown
  injection hown with hown
  subst hown
  obtain ⟨hmissed, hlost⟩ := Reader.loss_steps hsteps
  have hlines : linesOf bytes = (textLines bytes).map Line.ofText := rfl
  rw [hlines] at hmissed hlost
  constructor
  · unfold Lossy
    rw [hmissed, Bool.false_or, List.any_map, List.any_eq_true]
    simp only [Function.comp_apply, Option.isSome_iff_exists, ← told?_eq_some_iff]
    rfl
  · rw [hlost, List.filterMap_map, Nat.zero_add]
    rfl

end SlabWaste.Trace
