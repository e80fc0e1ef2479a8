/-
  SlabWaste.Proofs.Trace.Grammar
  ──────────────────────────────
  **RECORD LINES ARE READ AS WRITTEN.**

  The parts of a record line are found one after the other, from the last to the
  first, since each is found only if what follows it is:

      stamp?_append         a time with the rest of its line
      findStamp_token       … behind tokens that do not begin with a time
      tail?_append          what follows the task
      tail?_of_dashFirst    what follows a dash within the task
      record?_append        the task and what follows it
      event?_append         the event, and
      event?_system         … behind the system that it belongs to
      ofText_record         the line
      assignments_append    the fields
-/
import SlabWaste.Proofs.Number.Printed
import SlabWaste.Proofs.Text.Encoding
import SlabWaste.Trace.Line

namespace SlabWaste.Trace

open SlabWaste.Text

/-! ## §1. Times. -/

/-- A time with its point. -/
def Stamp.text (s : Stamp) : List Char := digitText s.whole ++ '.' :: digitText s.fraction

/-- Both sides of the point have digits, and nothing but digits. -/
structure Stamp.Written (s : Stamp) : Prop where
  whole_ne : s.whole ≠ []
  whole_lt : ∀ d ∈ s.whole, d < 10
  fraction_ne : s.fraction ≠ []
  fraction_lt : ∀ d ∈ s.fraction, d < 10

/-- A time stays within its line. -/
theorem Stamp.Written.inline_text {s : Stamp} (h : s.Written) : Inline s.text := by
  have hdigits : ∀ ds : List Nat, (∀ d ∈ ds, d < 10) → Inline (digitText ds) := by
    intro ds hds c hc
    obtain ⟨d, hd, rfl⟩ := List.mem_map.mp hc
    exact (digitChar_class (hds d hd)).2.2
  refine inline_append (hdigits _ h.whole_lt) (List.forall_mem_cons.mpr ⟨by decide, ?_⟩)
  exact hdigits _ h.fraction_lt

/-- The rest of a line: blanks are dropped, and so is the line end. -/
theorem restOfLine_append {blanks body last : List Char} (hblanks : Within isBlank blanks)
    (hbody : Ends isBlank body) (hne : body ≠ []) (hline : ∀ c ∈ body, c ≠ '\n')
    (hlast : last = [] ∨ last = ['\n']) :
    restOfLine (blanks ++ (body ++ last)) = some body := by
  have hpiece : ∀ c ∈ body, (c != '\n') = true := by
    intro c hc
    simpa using hline c hc
  have hends : Ends (· != '\n') last := by
    rcases hlast with rfl | rfl
    · exact ends_nil
    · exact ends_cons.mpr (by decide)
  unfold restOfLine
  simp only [trimLeft_append hblanks (hbody.append hne),
    takeWhile_append_of_ends hpiece hends, dropWhile_append_of_ends hpiece hends]
  rw [if_pos hlast]

/-- The text begins with a time and its colon. -/
def BeginsWithTime (s : List Char) : Prop :=
  ∃ (whole fraction : Piece isDigit) (rest : List Char),
    s = whole.text ++ '.' :: (fraction.text ++ ':' :: rest)

/-- A time begins with a digit. -/
theorem not_beginsWithTime {s : List Char} (h : Ends isDigit s) : ¬ BeginsWithTime s := by
  rintro ⟨whole, fraction, rest, rfl⟩
  have hne := whole.ne
  have hdigit := whole.within
  cases htext : whole.text with
  | nil => exact hne htext
  | cons c t =>
      rw [htext] at h hdigit
      have hc := hdigit c List.mem_cons_self
      rw [List.cons_append, ends_cons, hc] at h
      cases h

/-- The time in digits of any scripts. -/
def Stamp.ofPieces (whole fraction : Piece isDigit) : Stamp :=
  ⟨whole.text.filterMap digitValue?, fraction.text.filterMap digitValue?⟩

/-- **A time is read where it stands**, up to the colon after it. -/
theorem stamp?_append (whole fraction : Piece isDigit) {rest body : List Char}
    (hrest : restOfLine rest = some body) :
    stamp? (whole.text ++ '.' :: (fraction.text ++ ':' :: rest))
      = some (.ofPieces whole fraction, body) := by
  have hwhole : digits? (whole.text ++ '.' :: (fraction.text ++ ':' :: rest)) = some (_, _) :=
    whole.digits?_append (ends_cons.mpr (by decide))
  have hfraction : digits? (fraction.text ++ ':' :: rest) = some (_, _) :=
    fraction.digits?_append (ends_cons.mpr (by decide))
  have hpoint : expect ['.'] ('.' :: (fraction.text ++ ':' :: rest))
      = some (fraction.text ++ ':' :: rest) := expect_append ['.'] _
  have hcolon : expect [':'] (':' :: rest) = some rest := expect_append [':'] rest
  -- the scanners find these four pieces one after the other
  unfold stamp?
  simp only [Option.bind_eq_bind, Option.bind_some, hwhole, hpoint, hfraction, hcolon, hrest]
  rfl

/-- Where a time is found the text begins with one. -/
theorem beginsWithTime_of_stamp? {s : List Char} {found : Stamp × List Char}
    (h : stamp? s = some found) : BeginsWithTime s := by
  unfold stamp? at h
  simp only [Option.bind_eq_bind, Option.bind_eq_some_iff] at h
  obtain ⟨⟨_, s₁⟩, hwhole, s₂, hpoint, ⟨_, s₃⟩, hfraction, s₄, hcolon, -⟩ := h
  obtain ⟨whole, hs⟩ := exists_of_digits? hwhole
  obtain ⟨fraction, hs₂⟩ := exists_of_digits? hfraction
  have hs₁ : s₁ = '.' :: s₂ := expect_eq_some_iff.mp hpoint
  have hs₃ : s₃ = ':' :: s₄ := expect_eq_some_iff.mp hcolon
  exact ⟨whole, fraction, s₄, by rw [hs, hs₁, hs₂, hs₃]⟩

/-- No time is read where no digit stands. -/
theorem stamp?_of_ends {s : List Char} (h : Ends isDigit s) : stamp? s = none := by
  unfold stamp?
  rw [digits?_of_ends h]
  rfl

/-- A token that does not begin with a time does not with a blank after it either. -/
theorem stamp?_token {token rest : List Char} {b : Char} (hb : isBlank b = true)
    (htoken : ¬ BeginsWithTime token) : stamp? (token ++ b :: rest) = none := by
  cases hstamp : stamp? (token ++ b :: rest) with
  | none => rfl
  | some found =>
      obtain ⟨whole, fraction, after, htext⟩ := beginsWithTime_of_stamp? hstamp
      -- the time has no blanks, so it would end within the token
      have hdigits : ∀ piece : Piece isDigit, Without isBlank piece.text :=
        fun piece c hc => not_blank_of_digit (piece.within c hc)
      have htime : Without isBlank (whole.text ++ '.' :: (fraction.text ++ [':'])) := by
        intro c hc
        simp only [List.mem_append, List.mem_cons, List.not_mem_nil, or_false] at hc
        rcases hc with hc | rfl | hc | rfl
        · exact hdigits whole c hc
        · decide
        · exact hdigits fraction c hc
        · decide
      have hprefix : token ++ b :: rest
          = (whole.text ++ '.' :: (fraction.text ++ [':'])) ++ after := by simpa using htext
      obtain ⟨more, hmore⟩ := exists_of_without htime hb hprefix
      exact absurd ⟨whole, fraction, more, by simpa using hmore⟩ htoken

/-! ## §2. Looking for a time. -/

/-- A time may begin behind a blank only. -/
theorem findStamp_cons (start : Bool) (c : Char) (s : List Char) :
    findStamp start (c :: s)
      = match if start then stamp? (c :: s) else none with
        | some found => some found
        | none => findStamp (isBlank c) s := rfl

/-- The first time there is is found. -/
theorem findStamp_of_stamp? {s : List Char} {found : Stamp × List Char}
    (h : stamp? s = some found) : findStamp true s = some found := by
  cases s with
  | nil => cases h
  | cons c s => rw [findStamp_cons, if_pos rfl, h]

/-- Blanks are passed over. -/
theorem findStamp_blanks {blanks rest : List Char} (h : Within isBlank blanks) :
    findStamp true (blanks ++ rest) = findStamp true rest := by
  induction blanks with
  | nil => rfl
  | cons c blanks ih =>
      have hc := h c List.mem_cons_self
      have hnone : stamp? (c :: (blanks ++ rest)) = none :=
        stamp?_of_ends (ends_cons.mpr (blank_class hc).2)
      rw [List.cons_append, findStamp_cons, if_pos rfl, hnone]
      show findStamp (isBlank c) (blanks ++ rest) = _
      rw [hc]
      exact ih fun x hx => h x (List.mem_cons_of_mem c hx)

/-- Inside a token no time is looked for. -/
theorem findStamp_inside {token rest : List Char} {b : Char}
    (htoken : Without isBlank token) (hb : isBlank b = true) :
    findStamp false (token ++ b :: rest) = findStamp true rest := by
  induction token with
  | nil =>
      show findStamp (isBlank b) rest = _
      rw [hb]
  | cons c token ih =>
      show findStamp (isBlank c) (token ++ b :: rest) = _
      rw [htoken c List.mem_cons_self]
      exact ih fun x hx => htoken x (List.mem_cons_of_mem c hx)

/-- A token that does not begin with a time is passed over, with the blanks after it. -/
theorem findStamp_token (token : Piece (!isBlank ·)) (gap : Piece isBlank) (rest : List Char)
    (hplain : ¬ BeginsWithTime token.text) :
    findStamp true (token.text ++ (gap.text ++ rest)) = findStamp true rest := by
  obtain ⟨text, hne, htoken⟩ := token
  obtain ⟨blanks, hblanks, hgap⟩ := gap
  cases blanks with
  | nil => exact absurd rfl hblanks
  | cons b blanks =>
      cases text with
      | nil => exact absurd rfl hne
      | cons c text =>
          have hb := hgap b List.mem_cons_self
          -- there is no time at the start of the token, and none is looked for inside of it
          have hnone : stamp? (c :: (text ++ b :: (blanks ++ rest))) = none :=
            @stamp?_token (c :: text) _ b hb hplain
          have hc : ∀ x ∈ c :: text, isBlank x = false := fun x hx => by simpa using htoken x hx
          show findStamp true (c :: (text ++ b :: (blanks ++ rest))) = _
          rw [findStamp_cons, if_pos rfl, hnone]
          show findStamp (isBlank c) (text ++ b :: (blanks ++ rest)) = _
          rw [hc c List.mem_cons_self,
            findStamp_inside (fun x hx => hc x (List.mem_cons_of_mem c hx)) hb,
            findStamp_blanks fun x hx => hgap x (List.mem_cons_of_mem b hx)]

/-! ## §3. After the task. -/

/-- The parts after the task are found as written; `group` is the thread group with the blanks
after it, or nothing. -/
theorem tail?_append (pid cpu : Piece isDigit) (gap space : Piece isBlank)
    {group s rest : List Char} {stamp : Stamp}
    (hgroup : ∀ t, skipGroup (group ++ '[' :: t) = some ('[' :: t))
    (hstart : ∀ t, Ends isBlank (group ++ '[' :: t)) (hs : Ends isBlank s)
    (hstamp : findStamp true s = some (stamp, rest)) :
    tail? (pid.text ++ (gap.text ++ (group ++ '[' :: (cpu.text ++ ']' :: (space.text ++ s)))))
      = some ⟨pid.text.filterMap digitValue?, cpu.text.filterMap digitValue?, stamp, rest⟩ := by
  -- from here on one fact for each scanner, in the order in which they run
  have h₁ := pid.digits?_append (gap.ends (fun c hc => (blank_class hc).2)
    (group ++ '[' :: (cpu.text ++ ']' :: (space.text ++ s))))
  have h₂ := skipBlanks_append gap.ne gap.within (hstart (cpu.text ++ ']' :: (space.text ++ s)))
  have h₃ := hgroup (cpu.text ++ ']' :: (space.text ++ s))
  have h₄ : expect ['['] ('[' :: (cpu.text ++ ']' :: (space.text ++ s)))
      = some (cpu.text ++ ']' :: (space.text ++ s)) := expect_append ['['] _
  have h₅ : digits? (cpu.text ++ ']' :: (space.text ++ s)) = some (_, _) :=
    cpu.digits?_append (ends_cons.mpr (by decide))
  have h₆ : expect [']'] (']' :: (space.text ++ s)) = some (space.text ++ s) :=
    expect_append [']'] _
  have h₇ := skipBlanks_append space.ne space.within hs
  unfold tail?
  simp only [Option.bind_eq_bind, Option.bind_some, h₁, h₂, h₃, h₄, h₅, h₆, h₇, hstamp]
  rfl

/-! ## §4. A dash before the first bracket. -/

/-- The text has a dash before its first opening bracket, and `after` stands behind that dash. -/
def DashFirst (after s : List Char) : Prop := ∃ front, '[' ∉ front ∧ s = front ++ '-' :: after

/-- What is no dash may be taken off the front. -/
theorem DashFirst.tail {after s : List Char} {c : Char} (h : DashFirst after (c :: s))
    (hc : c ≠ '-') : DashFirst after s := by
  obtain ⟨front, hfront, hs⟩ := h
  cases front with
  | nil =>
      injection hs with hdash
      exact absurd hdash hc
  | cons x front =>
      injection hs with _ hs
      exact ⟨front, fun hmem => hfront (List.mem_cons_of_mem x hmem), hs⟩

/-- Taking other characters off the front leaves the dash there. -/
theorem DashFirst.dropWhile {p : Char → Bool} (hp : p '-' = false) {after s : List Char}
    (h : DashFirst after s) : DashFirst after (s.dropWhile p) := by
  induction s with
  | nil => exact h
  | cons c s ih =>
      by_cases hc : p c = true
      · rw [List.dropWhile_cons_of_pos hc]
        refine ih (h.tail ?_)
        rintro rfl
        rw [hp] at hc
        cases hc
      · rw [List.dropWhile_cons_of_neg hc]
        exact h

/-- So may a piece that is expected. -/
theorem DashFirst.expect {piece after s t : List Char} (hpiece : '-' ∉ piece)
    (h : DashFirst after s) (ht : expect piece s = some t) : DashFirst after t := by
  rw [expect_eq_some_iff] at ht
  subst ht
  induction piece with
  | nil => exact h
  | cons c piece ih =>
      simp only [List.mem_cons, not_or] at hpiece
      exact ih hpiece.2 (h.tail (Ne.symm hpiece.1))

/-- A bracket does not come first. -/
theorem DashFirst.expect_bracket {piece after s : List Char} (h : DashFirst after s) :
    Text.expect ('[' :: piece) s = none := by
  obtain ⟨front, hfront, rfl⟩ := h
  cases front with
  | nil => rfl
  | cons c front =>
      have hc : '[' ≠ c := fun heq => hfront (by rw [heq]; exact List.mem_cons_self)
      show (if '[' = c then Text.expect piece (front ++ '-' :: after) else none) = none
      rw [if_neg hc]

/-- Blanks may be skipped, … -/
theorem DashFirst.skipBlanks {after s t : List Char} (h : DashFirst after s)
    (ht : skipBlanks s = some t) : DashFirst after t := by
  cases s with
  | nil => cases ht
  | cons c s =>
      have ht : (if isBlank c = true then some (trimLeft s) else none) = some t := ht
      by_cases hc : isBlank c = true
      · rw [if_pos hc] at ht
        injection ht with ht
        subst ht
        have hdrop := h.dropWhile (p := isBlank) (by decide)
        rwa [List.dropWhile_cons_of_pos hc] at hdrop
      · rw [if_neg hc] at ht
        cases ht

/-- … and digits. -/
theorem DashFirst.digits? {after s t : List Char} {ds : List Nat} (h : DashFirst after s)
    (ht : digits? s = some (ds, t)) : DashFirst after t := by
  unfold Text.digits? takeSome at ht
  by_cases hnone : (s.takeWhile isDigit).isEmpty = true
  · rw [if_pos hnone] at ht
    cases ht
  · rw [if_neg hnone] at ht
    injection ht with ht
    injection ht with _ ht
    subst ht
    exact h.dropWhile (by decide)

/-- A piece that may hold dashes ends before the dash, or else right behind what it finds there. -/
theorem DashFirst.dropWhile_dashes {p : Char → Bool} (hp : p '-' = true)
    {found rest s : List Char} (hfound : Within p found) (hrest : Ends p rest)
    (h : DashFirst (found ++ rest) s) :
    DashFirst (found ++ rest) (s.dropWhile p) ∨ s.dropWhile p = rest := by
  obtain ⟨front, hfront, rfl⟩ := h
  induction front with
  | nil =>
      right
      show List.dropWhile p ('-' :: (found ++ rest)) = rest
      rw [List.dropWhile_cons_of_pos hp, dropWhile_append_of_ends hfound hrest]
  | cons c front ih =>
      by_cases hc : p c = true
      · rw [List.cons_append, List.dropWhile_cons_of_pos hc]
        exact ih fun hmem => hfront (List.mem_cons_of_mem c hmem)
      · left
        rw [List.cons_append, List.dropWhile_cons_of_neg hc]
        exact ⟨c :: front, hfront, rfl⟩

/-- A thread group ends before the dash: if the dash is inside it, then so are the digits behind
the dash, but not the blank behind them. -/
theorem DashFirst.skipGroup {pid : List Char} (hpid : Within isDigit pid) {b : Char}
    (hb : isBlank b = true) {rest s t : List Char} (h : DashFirst (pid ++ b :: rest) s)
    (ht : skipGroup s = some t) : DashFirst (pid ++ b :: rest) t := by
  -- without a parenthesis nothing is skipped
  by_cases hopen : ∃ inner, s = '(' :: inner
  · obtain ⟨inner, rfl⟩ := hopen
    unfold Trace.skipGroup at ht
    simp only [Option.bind_eq_bind, Option.bind_eq_some_iff] at ht
    obtain ⟨⟨_, s₁⟩, hid, s₂, hclose, hblanks⟩ := ht
    have hinner : DashFirst (pid ++ b :: rest) (trimLeft inner) :=
      (h.tail (by decide)).dropWhile (by decide)
    have hs₁ : s₁ = (trimLeft inner).dropWhile (fun c => c == '-' || isDigit c) := by
      unfold takeSome at hid
      split at hid
      · cases hid
      · injection hid with hid
        injection hid with _ hid
        exact hid.symm
    have hfound : Within (fun c => c == '-' || isDigit c) pid := by
      intro c hc
      rw [Bool.or_eq_true]
      exact Or.inr (hpid c hc)
    have hrest : Ends (fun c => c == '-' || isDigit c) (b :: rest) := by
      rw [ends_cons, Bool.or_eq_false_iff]
      refine ⟨?_, (blank_class hb).2⟩
      apply beq_false_of_ne
      rintro rfl
      cases hb
    rcases hinner.dropWhile_dashes rfl hfound hrest with hdash | hdash
    · rw [← hs₁] at hdash
      exact (hdash.expect (by decide) hclose).skipBlanks hblanks
    · -- the dash and the digits are taken, and a blank stands where the parenthesis should be
      rw [hs₁, hdash] at hclose
      have hparen : b :: rest = ')' :: s₂ := expect_eq_some_iff.mp hclose
      injection hparen with hparen
      subst hparen
      cases hb
  · have hsame : Trace.skipGroup s = some s := by
      unfold Trace.skipGroup
      split
      · next inner => exact absurd ⟨inner, rfl⟩ hopen
      · rfl
    rw [hsame] at ht
    injection ht with ht
    rw [← ht]
    exact h

/-- A dash is not the one before the process if there is another one before the first bracket. -/
theorem tail?_of_dashFirst {pid : List Char} (hpid : Within isDigit pid) {b : Char}
    (hb : isBlank b = true) {rest s : List Char} (h : DashFirst (pid ++ b :: rest) s) :
    tail? s = none := by
  cases htail : tail? s with
  | none => rfl
  | some t =>
      unfold tail? at htail
      simp only [Option.bind_eq_bind, Option.bind_eq_some_iff] at htail
      obtain ⟨⟨_, s₁⟩, hdigits, s₂, hblanks, s₃, hgroup, s₄, hbracket, -⟩ := htail
      have hdash := ((h.digits? hdigits).skipBlanks hblanks).skipGroup hpid hb hgroup
      rw [hdash.expect_bracket] at hbracket
      cases hbracket

/-- A line that tells of losses has no dash before its first bracket. -/
theorem lost?_of_dashFirst {after line : List Char} (h : DashFirst after line) :
    lost? line = none := by
  cases hlost : lost? line with
  | none => rfl
  | some ds =>
      unfold lost? at hlost
      simp only [Option.bind_eq_bind, Option.bind_eq_some_iff] at hlost
      obtain ⟨s₁, hcpu, ⟨_, s₂⟩, hdigits, s₃, hblanks, s₄, hbracket, -⟩ := hlost
      have hs₁ : DashFirst after s₁ := (h.dropWhile (by decide)).expect (by decide) hcpu
      have hcolon : DashFirst after (skipColon s₁) := by
        unfold skipColon
        split
        · exact hs₁.tail (by decide)
        · exact hs₁
      have hdash := ((hcolon.dropWhile (by decide)).digits? hdigits).skipBlanks hblanks
      have hnone : expect "[LOST".toList s₃ = none := hdash.expect_bracket
      rw [hnone] at hbracket
      cases hbracket

/-! ## §5. The task. -/

/-- Of the dashes up to the first bracket the last one ends the task. -/
theorem findDash_append (read : List Char) {task pid rest : List Char} {t : Tail} {b : Char}
    (hbracket : '[' ∉ task) (hline : '\n' ∉ task) (hne : read ++ task ≠ [])
    (hpid : Within isDigit pid) (hb : isBlank b = true)
    (ht : tail? (pid ++ b :: rest) = some t) :
    findDash read (task ++ '-' :: (pid ++ b :: rest)) = some (read.reverse ++ task, t) := by
  -- on the characters left of the task; a dash among them has the one after the task behind it
  induction task generalizing read with
  | nil =>
      have hread : read ≠ [] := by simpa using hne
      rw [List.nil_append, findDash, if_pos ⟨rfl, hread⟩, ht, List.append_nil]
  | cons c task ih =>
      simp only [List.mem_cons, not_or] at hbracket hline
      have hnone : (if c = '-' ∧ read ≠ [] then tail? (task ++ '-' :: (pid ++ b :: rest)) else none)
          = none := by
        split
        · exact tail?_of_dashFirst hpid hb ⟨task, hbracket.2, rfl⟩
        · rfl
      rw [List.cons_append, findDash, hnone]
      show (if c = '\n' then none else findDash (c :: read) (task ++ _)) = _
      rw [if_neg (Ne.symm hline.1), ih (c :: read) hbracket.2 hline.2 (by simp),
        List.reverse_cons, List.append_assoc]
      rfl

/-- **The task is what stands before the last dash that a record can follow.** -/
theorem record?_append {indent task pid rest : List Char} {t : Tail} {b : Char}
    (hindent : Within isBlank indent) (hne : task ≠ []) (hstart : Ends isBlank task)
    (hend : Ends isBlank task.reverse) (hbracket : '[' ∉ task) (hline : '\n' ∉ task)
    (hpid : Within isDigit pid) (hb : isBlank b = true)
    (ht : tail? (pid ++ b :: rest) = some t) :
    record? (indent ++ (task ++ '-' :: (pid ++ b :: rest))) = some { t with task } := by
  have htext : trimLeft (indent ++ (task ++ '-' :: (pid ++ b :: rest)))
      = task ++ '-' :: (pid ++ b :: rest) := trimLeft_append hindent (hstart.append hne)
  have hdash := findDash_append [] hbracket hline (by simpa using hne) hpid hb ht
  unfold record?
  simp only [htext, hdash]
  show some ({ t with task := trim task } : Parts) = _
  rw [trim_of_ends hstart hend]

/-! ## §6. The event. -/

/-- A label is a word and a colon. -/
theorem label?_append (word : Piece isWord) (s : List Char) :
    label? (word.text ++ ':' :: s) = some (word.text, s) := by
  have hword : word? (word.text ++ ':' :: s) = some (word.text, ':' :: s) :=
    takeSome_append word.ne word.within (ends_cons.mpr (by decide))
  have hcolon : expect [':'] (':' :: s) = some s := expect_append [':'] s
  unfold label?
  simp only [Option.bind_eq_bind, Option.bind_some, hword, hcolon]
  rfl

/-- A single label is the event. -/
theorem event?_append (name : Piece isWord) {s : List Char} (hs : Ends isWord s) :
    event? (name.text ++ ':' :: s) = some (name.text, trimLeft s) := by
  -- what follows the first label is no second one, so the first is not the system's
  have hsecond : label? s = none := by
    have hword : word? s = none := takeSome_of_ends hs
    unfold label?
    rw [hword]
    rfl
  unfold event?
  simp only [Option.bind_eq_bind, Option.bind_some, label?_append, hsecond]
  rfl

/-- Of two labels the second is the event. -/
theorem event?_system (system name : Piece isWord) (s : List Char) :
    event? (system.text ++ ':' :: (name.text ++ ':' :: s)) = some (name.text, trimLeft s) := by
  unfold event?
  simp only [Option.bind_eq_bind, Option.bind_some, label?_append]
  rfl

/-! ## §7. The line. -/

/-- A line that is no header, tells of no lost events and has the parts of a record that names an
event is that record. -/
theorem ofText_record {line : List Char} {parts : Parts} {event fields : List Char}
    (hheader : line.head? ≠ some '#') (hlost : lost? line = none)
    (hrecord : record? line = some parts) (hevent : event? parts.rest = some (event, fields)) :
    Line.ofText line = .record parts (String.ofList event) fields := by
  unfold Line.ofText
  rw [if_neg hheader, hlost, hrecord]
  simp only [hevent]

/-! ## §8. Fields. -/

/-- Fields as they stand in a line. -/
def fieldText : List (String × String) → List Char
  | [] => []
  | [f] => f.1.toList ++ '=' :: f.2.toList
  | f :: fs => f.1.toList ++ '=' :: (f.2.toList ++ ' ' :: fieldText fs)

/-- Fields stay within their line. -/
theorem inline_fieldText {fs : List (String × String)}
    (h : ∀ f ∈ fs, Within isWord f.1.toList ∧ Without isBlank f.2.toList) :
    Inline (fieldText fs) := by
  have hword : ∀ key : List Char, Within isWord key → Inline key := by
    intro key hkey c hc
    have hc := hkey c hc
    constructor
    · rintro rfl
      exact absurd hc (by decide)
    · rintro rfl
      exact absurd hc (by decide)
  induction fs with
  | nil =>
      intro c hc
      cases hc
  | cons f fs ih =>
      obtain ⟨hkey, hvalue⟩ := h f List.mem_cons_self
      have hrest := ih fun x hx => h x (List.mem_cons_of_mem f hx)
      cases fs with
      | nil =>
          refine inline_append (hword _ hkey) (List.forall_mem_cons.mpr ⟨by decide, ?_⟩)
          exact inline_of_without hvalue
      | cons g gs =>
          refine inline_append (hword _ hkey) (List.forall_mem_cons.mpr ⟨by decide, ?_⟩)
          refine inline_append (inline_of_without hvalue) ?_
          exact List.forall_mem_cons.mpr ⟨by decide, hrest⟩

/-- A key is read up to its equals sign. -/
theorem assignmentsFrom_key (read : List Char) {key s : List Char}
    (hkey : Within isWord key) (hne : key.reverse ++ read ≠ []) :
    assignmentsFrom none read (key ++ '=' :: s)
      = assignmentsFrom (some (read.reverse ++ key)) [] s := by
  induction key generalizing read with
  | nil =>
      have hread : read ≠ [] := by simpa using hne
      rw [List.nil_append, assignmentsFrom]
      simp only [show isWord '=' = false by decide, hread, ne_eq, not_false_eq_true, and_self,
        Bool.false_eq_true, if_true, if_false, List.append_nil]
  | cons c key ih =>
      rw [List.cons_append, assignmentsFrom]
      simp only [hkey c List.mem_cons_self, if_true]
      rw [ih (c :: read) (fun x hx => hkey x (List.mem_cons_of_mem c hx)) (by simp)]
      simp

/-- Blanks in front of a key are passed over. -/
theorem assignments_blanks {blanks s : List Char} (h : Within isBlank blanks) :
    assignments (blanks ++ s) = assignments s := by
  unfold assignments
  induction blanks with
  | nil => rfl
  | cons c blanks ih =>
      have hc := (blank_class (h c List.mem_cons_self)).1
      rw [List.cons_append, assignmentsFrom]
      simp only [hc, Bool.false_eq_true, if_false, ne_eq, not_true, and_false]
      exact ih fun x hx => h x (List.mem_cons_of_mem c hx)

/-- Blanks in front of assignments do not matter. -/
theorem assignments_trimLeft (s : List Char) : assignments (trimLeft s) = assignments s := by
  have hsplit : s.takeWhile isBlank ++ trimLeft s = s := List.takeWhile_append_dropWhile
  have hblanks : Within isBlank (s.takeWhile isBlank) := fun c hc => List.mem_takeWhile_imp hc
  rw [← assignments_blanks (s := trimLeft s) hblanks, hsplit]

/-- A value goes up to the next blank, or to the end. -/
theorem assignmentsFrom_value (key read : List Char) {value s : List Char}
    (hvalue : Without isBlank value) (hs : Ends (!isBlank ·) s) :
    assignmentsFrom (some key) read (value ++ s)
      = (String.ofList key, String.ofList (read.reverse ++ value)) :: assignments s := by
  -- along the value, whatever was read of it before
  induction value generalizing read with
  | nil =>
      rw [List.append_nil]
      cases s with
      | nil => rfl
      | cons b s =>
          have hb : isBlank b = true := by simpa using ends_cons.mp hs
          have hskip : assignments ([b] ++ s) = assignments s :=
            assignments_blanks fun x hx => by rwa [List.mem_singleton.mp hx]
          rw [List.nil_append, ← List.singleton_append, hskip, List.singleton_append,
            assignmentsFrom]
          simp only [hb, if_true]
          rfl
  | cons c value ih =>
      rw [List.cons_append, assignmentsFrom]
      simp only [hvalue c List.mem_cons_self, Bool.false_eq_true, if_false]
      rw [ih (c :: read) fun x hx => hvalue x (List.mem_cons_of_mem c hx)]
      simp

/-- An assignment is read as written. -/
theorem assignments_append (key : Piece isWord) {value s : List Char}
    (hvalue : Without isBlank value) (hs : Ends (!isBlank ·) s) :
    assignments (key.text ++ '=' :: (value ++ s))
      = (String.ofList key.text, String.ofList value) :: assignments s := by
  have hne : key.text.reverse ++ [] ≠ [] := by simpa using key.ne
  show assignmentsFrom none [] _ = _
  rw [assignmentsFrom_key [] key.within hne, assignmentsFrom_value _ [] hvalue hs]
  simp

end SlabWaste.Trace
