/-
  SlabWaste.Proofs.Number.Spelling
  ────────────────────────────────
  **HOW A NUMBER MAY BE SPELLED.**

      BLANKS SIGN MARK DIGITS BLANKS

  Only the digits have to be there.  They are digits of any script, with single
  low lines between them, and a mark of base sixteen may stand in front:

      Spelled              the texts that denote a number, and which
      read_eq_ok_iff       a text is read just when it is one of them

  Numbers are documented as ASCII digits, in base sixteen with or without 0x.
  All other spellings have a character that such a one has not:

      Documented           the documented spellings
      spelled_iff          what is spelled without such a character
-/
import SlabWaste.Proofs.Number.Printed

namespace SlabWaste.Numeral

open SlabWaste.Text

variable {radix : Radix} {c : Char} {d : Nat}

/-! ## §1. Digits and pads. -/

/-- A digit is none of the marks. -/
theorem not_mark_of_digit? (h : digit? radix c = some d) : c ∉ marks := by
  intro hc
  have hmarks : ∀ radix, Without (fun c => (digit? radix c).isSome) marks := by
    intro radix
    cases radix with
    | ten => decide
    | sixteen => decide
  have hnone : (digit? radix c).isSome = false := hmarks radix c hc
  rw [h] at hnone
  cases hnone

/-- What may stand around a number is white space. -/
theorem isBlank_of_isPad (h : isPad c = true) : isBlank c = true := by
  unfold isPad at h
  split at h
  · simp only [Bool.or_eq_true, Bool.and_eq_true, decide_eq_true_eq, beq_iff_eq] at h
    rcases h with h | rfl
    · unfold isBlank
      simp [h]
    · decide
  · exact h

/-- A digit is no pad. -/
theorem not_pad_of_digit? (h : digit? radix c = some d) : isPad c = false := by
  cases hpad : isPad c with
  | false => rfl
  | true =>
      have hcodes : ∀ n ∈ blankCodes, digit? .ten (Char.ofNat n) = none
          ∧ digit? .sixteen (Char.ofNat n) = none := by decide +kernel
      have hnone := hcodes c.toNat (toNat_mem_blankCodes (isBlank_of_isPad hpad))
      rw [Char.ofNat_toNat] at hnone
      cases radix with
      | ten =>
          rw [hnone.1] at h
          cases h
      | sixteen =>
          rw [hnone.2] at h
          cases h

/-- No pad is a mark. -/
theorem not_mark_of_isPad (h : isPad c = true) : c ∉ marks := by
  intro hc
  have hmarks : Without isPad marks := by decide
  rw [hmarks c hc] at h
  cases h

/-! ## §2. Runs of digits. -/

/-- A run of digits with single low lines between them, and the values of its digits; `sought` says
that a digit has to come first. -/
inductive Run (radix : Radix) : Bool → List Char → List Nat → Prop where
  | done : Run radix false [] []
  | lowLine {s : List Char} {ds : List Nat} (h : Run radix true s ds) :
      Run radix false ('_' :: s) ds
  | digit {sought : Bool} {c : Char} {d : Nat} {s : List Char} {ds : List Nat}
      (hd : digit? radix c = some d) (h : Run radix false s ds) :
      Run radix sought (c :: s) (d :: ds)

/-- A character that goes on with a run of digits. -/
def goesOn (radix : Radix) (c : Char) : Bool := c == '_' || (digit? radix c).isSome

/-- A pad ends a run of digits. -/
theorem goesOn_of_isPad (h : isPad c = true) : goesOn radix c = false := by
  unfold goesOn
  have hline : c ≠ '_' := fun hc => not_mark_of_isPad h (by rw [hc]; decide)
  cases hd : digit? radix c with
  | none => simp [hline]
  | some d =>
      rw [not_pad_of_digit? hd] at h
      cases h

/-- A run is read, up to what ends it, … -/
theorem digitRun_of_run {sought : Bool} {run rest : List Char} {ds : List Nat}
    (h : Run radix sought run ds) (hrest : Ends (goesOn radix) rest) (found : List Nat) :
    digitRun radix sought found (run ++ rest) = some (found.reverse ++ ds, rest) := by
  -- by the run itself, whatever digits were found before it
  induction h generalizing found with
  | done =>
      rw [List.nil_append, List.append_nil]
      cases rest with
      | nil => rfl
      | cons c s =>
          -- the run is over, and the next character would not go on with it
          have hc := ends_cons.mp hrest
          unfold goesOn at hc
          rw [Bool.or_eq_false_iff, beq_eq_false_iff_ne, Option.isSome_eq_false_iff,
            Option.isNone_iff_eq_none] at hc
          rw [digitRun, if_neg hc.1, hc.2]
          rfl
  | lowLine _ ih =>
      rw [List.cons_append, digitRun, if_pos rfl]
      exact ih found
  | @digit sought c d s ds hd _ ih =>
      have hline : c ≠ '_' := fun hc => not_mark_of_digit? hd (by rw [hc]; decide)
      rw [List.cons_append, digitRun, if_neg hline, hd]
      show digitRun radix false (d :: found) (s ++ rest) = _
      rw [ih, List.reverse_cons, List.append_assoc]
      rfl

/-- … and nothing else is read as one. -/
theorem run_of_digitRun {sought : Bool} {found ds : List Nat} {s rest : List Char}
    (h : digitRun radix sought found s = some (ds, rest)) :
    ∃ run values, Run radix sought run values ∧ s = run ++ rest
      ∧ ds = found.reverse ++ values ∧ Ends (goesOn radix) rest := by
  -- by the text: a low line or a digit is the first of a run, anything else ends it
  induction s generalizing sought found with
  | nil =>
      cases sought with
      -- a digit is still wanted after a low line, so there is no run at all
      | true => cases h
      | false =>
          cases h
          exact ⟨[], [], .done, rfl, (List.append_nil _).symm, ends_nil⟩
  | cons c s ih =>
      rw [digitRun] at h
      split at h
      · next hline =>
          cases sought with
          | true => cases h
          | false =>
              obtain ⟨run, values, hrun, rfl, hds, hrest⟩ := ih h
              exact ⟨c :: run, values, hline ▸ .lowLine hrun, rfl, hds, hrest⟩
      · next hline =>
          split at h
          · next d hd =>
              obtain ⟨run, values, hrun, rfl, hds, hrest⟩ := ih h
              refine ⟨c :: run, d :: values, .digit hd hrun, rfl, ?_, hrest⟩
              rw [hds, List.reverse_cons, List.append_assoc]
              rfl
          · next hd =>
              cases sought with
              | true => cases h
              | false =>
                  cases h
                  refine ⟨[], [], .done, rfl, (List.append_nil _).symm, ends_cons.mpr ?_⟩
                  unfold goesOn
                  simp [hline, hd]

/-- A run that has to begin with a digit does. -/
theorem Run.exists_digit {run : List Char} {ds : List Nat} (h : Run radix true run ds) :
    ∃ c d s, run = c :: s ∧ digit? radix c = some d := by
  cases h with
  | @digit _ c d s ds hd _ => exact ⟨c, d, s, rfl, hd⟩

/-! ## §3. Signs and marks. -/

/-- The sign in front of a number, and whether it makes the number negative. -/
inductive Sign : Bool → List Char → Prop where
  | minus : Sign true ['-']
  | plus : Sign false ['+']
  | none : Sign false []

/-- The mark of base sixteen in front of the digits: a zero of any script, the letter x, and a low
line that may be missing. -/
inductive Mark : Radix → List Char → Prop where
  | none {radix : Radix} : Mark radix []
  | plain {z x : Char} (hz : digitValue? z = some 0) (hx : x = 'x' ∨ x = 'X') :
      Mark .sixteen [z, x]
  | lowLine {z x : Char} (hz : digitValue? z = some 0) (hx : x = 'x' ∨ x = 'X') :
      Mark .sixteen [z, x, '_']

/-- The sign is what is taken off the front, if it is there. -/
theorem exists_sign (s : List Char) : ∃ text, Sign (sign s).1 text ∧ s = text ++ (sign s).2 := by
  unfold sign
  split
  · exact ⟨['-'], .minus, rfl⟩
  · exact ⟨['+'], .plus, rfl⟩
  · exact ⟨[], .none, rfl⟩

/-- A sign is taken off, and no more than that. -/
theorem sign_append {negative : Bool} {text s : List Char} (h : Sign negative text)
    (hs : Ends (marks.contains ·) s) : sign (text ++ s) = (negative, s) := by
  cases h with
  | minus => rfl
  | plus => rfl
  | none =>
      rw [List.nil_append]
      unfold sign
      split
      · exact absurd (ends_cons.mp hs) (by decide)
      · exact absurd (ends_cons.mp hs) (by decide)
      · rfl

/-- The mark of the base is what is taken off next. -/
theorem exists_mark (radix : Radix) (s : List Char) :
    ∃ mark, Mark radix mark ∧ s = mark ++ dropMark radix s := by
  unfold dropMark
  split
  · next z x s =>
      split
      · next h =>
          obtain ⟨rfl, hz, hx⟩ := h
          split
          · exact ⟨_, .lowLine hz hx, rfl⟩
          · exact ⟨_, .plain hz hx, rfl⟩
      · exact ⟨[], .none, rfl⟩
  · exact ⟨[], .none, rfl⟩

/-- What comes second in a run with pads after it is not the letter of a mark. -/
theorem second_ne_x {c x : Char} {run after s : List Char} {ds : List Nat}
    (h : Run radix true run ds) (hafter : Within isPad after) (hs : run ++ after = c :: x :: s) :
    ¬ (x = 'x' ∨ x = 'X') := by
  have hmark : ∀ x, x = 'x' ∨ x = 'X' → x ∈ marks := by
    rintro x (rfl | rfl)
    · decide
    · decide
  intro hx
  -- after the first digit comes the end of the run, a low line or a digit, and none is an x
  cases h with
  | digit hd h =>
      injection hs with _ hs
      cases h with
      | done =>
          have hs : after = x :: s := hs
          exact not_mark_of_isPad (hafter x (by rw [hs]; simp)) (hmark x hx)
      | lowLine h =>
          injection hs with hs
          rcases hx with rfl | rfl
          · cases hs
          · cases hs
      | digit hd h =>
          injection hs with hs
          exact not_mark_of_digit? hd (hs ▸ hmark x hx)

/-- A mark is two characters, … -/
theorem dropMark_plain {z x : Char} {s : List Char} (hz : digitValue? z = some 0)
    (hx : x = 'x' ∨ x = 'X') (hs : Ends (· == '_') s) : dropMark .sixteen (z :: x :: s) = s := by
  rw [dropMark, if_pos ⟨rfl, hz, hx⟩]
  rintro t rfl
  exact absurd (ends_cons.mp hs) (by decide)

/-- … and it is taken off only where a run of digits follows. -/
theorem dropMark_append {mark run after : List Char} {ds : List Nat} (hmark : Mark radix mark)
    (hrun : Run radix true run ds) (hafter : Within isPad after) :
    dropMark radix (mark ++ (run ++ after)) = run ++ after := by
  cases hmark with
  | none =>
      rw [List.nil_append]
      unfold dropMark
      split
      · next z x t hs => rw [if_neg fun h => second_ne_x hrun hafter hs h.2.2, ← hs]
      · rfl
  | plain hz hx =>
      -- the run begins with a digit, so no low line goes with the mark
      obtain ⟨c, d, s, rfl, hd⟩ := hrun.exists_digit
      have hline : c ≠ '_' := fun h => not_mark_of_digit? hd (by rw [h]; decide)
      exact dropMark_plain hz hx (ends_cons.mpr (beq_false_of_ne hline))
  | lowLine hz hx => exact if_pos ⟨rfl, hz, hx⟩

/-! ## §4. Spellings. -/

/-- A text spells a number. -/
inductive Spelled (radix : Radix) : List Char → Int → Prop where
  | mk {before sign mark run after : List Char} {negative : Bool} {digits : List Nat}
      (hbefore : Within isPad before) (hsign : Sign negative sign) (hmark : Mark radix mark)
      (hrun : Run radix true run digits) (hafter : Within isPad after)
      (hlength : radix = .ten → digits.length ≤ digitLimit) :
      Spelled radix (before ++ (sign ++ (mark ++ (run ++ after))))
        (if negative then -(value radix digits : Int) else value radix digits)

/-- Behind its pads and its sign a spelling begins with a digit. -/
theorem ends_marked {mark run : List Char} {ds : List Nat} (hmark : Mark radix mark)
    (hrun : Run radix true run ds) (after : List Char) :
    Ends (marks.contains ·) (mark ++ (run ++ after)) ∧ Ends isPad (mark ++ (run ++ after)) := by
  have hdigit : ∀ {c d s}, digit? radix c = some d →
      Ends (marks.contains ·) (c :: s) ∧ Ends isPad (c :: s) := by
    intro c d s hd
    rw [ends_cons, ends_cons]
    exact ⟨by simpa using not_mark_of_digit? hd, not_pad_of_digit? hd⟩
  have hzero : ∀ {z}, digitValue? z = some 0 → digit? .sixteen z = some 0 := by
    intro z hz
    unfold digit?
    rw [hz]
  -- with or without a mark, the text begins with a digit
  cases hmark with
  | none =>
      obtain ⟨c, d, s, rfl, hd⟩ := hrun.exists_digit
      exact hdigit hd
  | plain hz hx => exact hdigit (hzero hz)
  | lowLine hz hx => exact hdigit (hzero hz)

/-- What a text is found to be made of when it is read: a run of digits, no longer than it may be,
and pads. -/
theorem exists_of_read {text : String} {n : Int} (h : read radix text = .ok n) :
    ∃ digits rest,
      digitRun radix true [] (dropMark radix (sign (text.toList.dropWhile isPad)).2)
          = some (digits, rest)
        ∧ (radix = .ten → digits.length ≤ digitLimit) ∧ Within isPad rest
        ∧ n = if (sign (text.toList.dropWhile isPad)).1 then -(value radix digits : Int)
          else value radix digits := by
  unfold read at h
  simp only at h
  split at h
  next => cases h
  next digits rest hdigits =>
    split at h
    next => cases h
    next hlength =>
      split at h
      next hrest =>
        injection h with h
        refine ⟨digits, rest, hdigits, fun hten => ?_, List.all_eq_true.mp hrest, h.symm⟩
        exact Nat.le_of_not_lt fun hlong => hlength ⟨hten, hlong⟩
      next => cases h

/-- **What is read is spelled in one of the ways that are allowed.** -/
theorem spelled_of_read {text : String} {n : Int} (h : read radix text = .ok n) :
    Spelled radix text.toList n := by
  obtain ⟨digits, rest, hdigits, hlength, hrest, rfl⟩ := exists_of_read h
  obtain ⟨signText, hsign, htext⟩ := exists_sign (text.toList.dropWhile isPad)
  obtain ⟨mark, hmark, hmarked⟩ := exists_mark radix (sign (text.toList.dropWhile isPad)).2
  obtain ⟨run, values, hrun, hsplit, hvalues, -⟩ := run_of_digitRun hdigits
  rw [hsplit] at hmarked
  rw [hmarked] at htext
  -- the parts put together again are the whole text
  have hwhole : text.toList
      = text.toList.takeWhile isPad ++ (signText ++ (mark ++ (run ++ rest))) := by
    rw [← htext, List.takeWhile_append_dropWhile]
  have hvalues : digits = values := hvalues
  subst hvalues
  have hbefore : Within isPad (text.toList.takeWhile isPad) := fun c hc => List.mem_takeWhile_imp hc
  have hspelled := Spelled.mk hbefore hsign hmark hrun hrest hlength
  rw [← hwhole] at hspelled
  exact hspelled

/-- Each part of a spelling ends where the next one begins, so it is read as what it is. -/
theorem read_of_spelled {text : String} {n : Int} (h : Spelled radix text.toList n) :
    read radix text = .ok n := by
  generalize htext : text.toList = s at h
  cases h with
  | @mk before signText mark run after negative digits hbefore hsign hmark hrun hafter hlength =>
      obtain ⟨hmarks, hpads⟩ := ends_marked hmark hrun after
      -- each part stops the scan of the one before it
      have hstart : Ends isPad (signText ++ (mark ++ (run ++ after))) := by
        cases hsign with
        | minus => exact ends_cons.mpr (by decide)
        | plus => exact ends_cons.mpr (by decide)
        | none => exact hpads
      have hafterEnds : Ends (goesOn radix) after := fun c hc =>
        goesOn_of_isPad (hafter c (List.mem_of_mem_head? hc))
      have hdigits : digitRun radix true [] (run ++ after) = some (digits, after) :=
        digitRun_of_run hrun hafterEnds []
      unfold read
      rw [htext, dropWhile_append_of_ends hbefore hstart, sign_append hsign hmarks]
      simp only [dropMark_append hmark hrun hafter, hdigits]
      rw [if_neg fun h => absurd (hlength h.1) (Nat.not_le_of_lt h.2),
        if_pos (List.all_eq_true.mpr hafter)]

/-- **A text is read as a number just when it spells it.** -/
theorem read_eq_ok_iff {text : String} {n : Int} :
    read radix text = .ok n ↔ Spelled radix text.toList n :=
  ⟨spelled_of_read, read_of_spelled⟩

/-! ## §5. Documented spellings. -/

/-- The ASCII digits of a base. -/
def asciiDigits : Radix → List Char
  | .ten => "0123456789".toList
  | .sixteen => "0123456789abcdefABCDEF".toList

/-- An ASCII digit of a base. -/
def isAsciiDigit (radix : Radix) (c : Char) : Bool := (asciiDigits radix).contains c

/-- The number that the digits of a text denote. -/
def denoted (radix : Radix) (s : List Char) : Nat := value radix (s.filterMap (digit? radix))

/-- One or more ASCII digits, in base sixteen with or without 0x in front, in base ten not too many
of them; and the number that they denote. -/
inductive Documented : Radix → List Char → Int → Prop where
  | bare {radix : Radix} (body : Piece (isAsciiDigit radix))
      (hlength : radix = .ten → body.text.length ≤ digitLimit) :
      Documented radix body.text (denoted radix body.text)
  | marked (body : Piece (isAsciiDigit .sixteen)) :
      Documented .sixteen ('0' :: 'x' :: body.text) (denoted .sixteen body.text)

/-- A character that no documented spelling has and others may have: a sign, a low line, the other
letter of the mark, a pad, or one beyond ASCII. -/
def isExtra (c : Char) : Bool :=
  ['+', '-', '_', 'X'].contains c || isPad c || decide (128 ≤ c.toNat)

/-- A character is not extra if it is an ASCII one that is neither a pad nor a mark. -/
theorem isExtra_eq_false_iff :
    isExtra c = false ↔ c ∉ ['+', '-', '_', 'X'] ∧ isPad c = false ∧ c.toNat < 128 := by
  unfold isExtra
  rw [Bool.or_eq_false_iff, Bool.or_eq_false_iff, decide_eq_false_iff_not, Nat.not_le, and_assoc,
    ← Bool.not_eq_true, List.contains_iff_mem]

/-- The digits of the documented spellings are digits, and nothing extra. -/
theorem asciiDigit_class (h : isAsciiDigit radix c = true) :
    (∃ d, digit? radix c = some d) ∧ isExtra c = false := by
  have hevery : ∀ radix, Within (fun c => (digit? radix c).isSome) (asciiDigits radix)
      ∧ Without isExtra (asciiDigits radix) := by
    intro radix
    cases radix with
    | ten => decide
    | sixteen => decide
  have hmem : c ∈ asciiDigits radix := List.contains_iff_mem.mp h
  obtain ⟨hdigits, hextra⟩ := hevery radix
  exact ⟨Option.isSome_iff_exists.mp (hdigits c hmem), hextra c hmem⟩

/-- Among the ASCII characters there are no other digits. -/
theorem isAsciiDigit_of_digit? (h : digit? radix c = some d) (hc : c.toNat < 128) :
    isAsciiDigit radix c = true := by
  have hevery : ∀ radix, ∀ n < 128, (digit? radix (Char.ofNat n)).isSome = true →
      isAsciiDigit radix (Char.ofNat n) = true := by
    intro radix
    cases radix with
    | ten => decide +kernel
    | sixteen => decide +kernel
  have hdigit := hevery radix c.toNat hc
  rw [Char.ofNat_toNat, h] at hdigit
  exact hdigit rfl

/-- … and no other zero. -/
theorem eq_zero_of_digitValue? (h : digitValue? c = some 0) (hc : c.toNat < 128) : c = '0' := by
  have hevery : ∀ n < 128, digitValue? (Char.ofNat n) = some 0 → Char.ofNat n = '0' := by
    decide +kernel
  have hzero := hevery c.toNat hc
  rw [Char.ofNat_toNat] at hzero
  exact hzero h

/-- ASCII digits are a run. -/
theorem run_of_asciiDigits {sought : Bool} {s : List Char} (h : Within (isAsciiDigit radix) s)
    (hsought : sought = true → s ≠ []) : Run radix sought s (s.filterMap (digit? radix)) := by
  induction s generalizing sought with
  | nil =>
      cases sought with
      | true => exact absurd rfl (hsought rfl)
      | false => exact .done
  | cons c s ih =>
      obtain ⟨d, hd⟩ := (asciiDigit_class (h c List.mem_cons_self)).1
      rw [List.filterMap_cons_some hd]
      exact .digit hd (ih (fun x hx => h x (List.mem_cons_of_mem c hx)) (by simp))

/-- A run without extras is one of ASCII digits. -/
theorem Run.asciiDigits {sought : Bool} {s : List Char} {ds : List Nat}
    (h : Run radix sought s ds) (hs : Without isExtra s) :
    Within (isAsciiDigit radix) s ∧ ds = s.filterMap (digit? radix) ∧ ds.length = s.length := by
  induction h with
  | done => exact ⟨fun _ hc => absurd hc List.not_mem_nil, rfl, rfl⟩
  | lowLine h _ => exact absurd (hs '_' List.mem_cons_self) (by decide)
  | @digit sought c d s ds hd h ih =>
      obtain ⟨hwithin, hds, hlength⟩ := ih fun x hx => hs x (List.mem_cons_of_mem c hx)
      obtain ⟨-, -, hc⟩ := isExtra_eq_false_iff.mp (hs c List.mem_cons_self)
      refine ⟨List.forall_mem_cons.mpr ⟨isAsciiDigit_of_digit? hd hc, hwithin⟩, ?_, ?_⟩
      · rw [List.filterMap_cons_some hd, ← hds]
      · rw [List.length_cons, List.length_cons, hlength]

/-- No documented spelling is that of a negative number. -/
theorem Documented.nonneg {s : List Char} {n : Int} (h : Documented radix s n) : 0 ≤ n := by
  cases h with
  | bare body hlength => exact Int.natCast_nonneg _
  | marked body => exact Int.natCast_nonneg _

/-- Documented spellings have no extras. -/
theorem Documented.without {s : List Char} {n : Int} (h : Documented radix s n) :
    Without isExtra s := by
  have hbody : ∀ {radix : Radix} (body : Piece (isAsciiDigit radix)), Without isExtra body.text :=
    fun body c hc => (asciiDigit_class (body.within c hc)).2
  cases h with
  | bare body hlength => exact hbody body
  | marked body =>
      exact List.forall_mem_cons.mpr ⟨by decide, List.forall_mem_cons.mpr ⟨by decide, hbody body⟩⟩

/-- A documented spelling is one of those that are allowed. -/
theorem Documented.spelled {s : List Char} {n : Int} (h : Documented radix s n) :
    Spelled radix s n := by
  have hnone : Within isPad [] := fun _ hc => absurd hc List.not_mem_nil
  have hextra := h.without
  cases h with
  | bare body hshort =>
      have hrun : Run _ true body.text _ := run_of_asciiDigits body.within fun _ => body.ne
      have hspelled := Spelled.mk hnone .none .none hrun hnone fun hten => by
        rw [(hrun.asciiDigits hextra).2.2]
        exact hshort hten
      rw [List.append_nil] at hspelled
      exact hspelled
  | marked body =>
      have hrun : Run _ true body.text _ := run_of_asciiDigits body.within fun _ => body.ne
      have hmark : Mark .sixteen ['0', 'x'] := .plain (by decide) (Or.inl rfl)
      have hspelled := Spelled.mk hnone .none hmark hrun hnone (by simp)
      rw [List.append_nil] at hspelled
      exact hspelled

theorem without_append {p : Char → Bool} {s t : List Char} :
    Without p (s ++ t) ↔ Without p s ∧ Without p t := List.forall_mem_append

/-- Pads are extras. -/
theorem nil_of_pads {s : List Char} (hpads : Within isPad s) (hs : Without isExtra s) : s = [] := by
  cases s with
  | nil => rfl
  | cons c s =>
      obtain ⟨-, hc, -⟩ := isExtra_eq_false_iff.mp (hs c List.mem_cons_self)
      rw [hpads c List.mem_cons_self] at hc
      cases hc

/-- Signs are extras. -/
theorem none_of_sign {negative : Bool} {s : List Char} (h : Sign negative s)
    (hs : Without isExtra s) : s = [] ∧ negative = false := by
  cases h with
  | minus => exact absurd (hs '-' List.mem_cons_self) (by decide)
  | plus => exact absurd (hs '+' List.mem_cons_self) (by decide)
  | none => exact ⟨rfl, rfl⟩

/-- Without extras there is one mark. -/
theorem Mark.eq_of_without {s : List Char} (h : Mark radix s) (hs : Without isExtra s) :
    s = [] ∨ radix = .sixteen ∧ s = ['0', 'x'] := by
  cases h with
  | none => exact Or.inl rfl
  | @plain z x hz hx =>
      obtain ⟨-, -, hascii⟩ := isExtra_eq_false_iff.mp (hs z (by simp))
      rw [eq_zero_of_digitValue? hz hascii]
      rcases hx with rfl | rfl
      · exact Or.inr ⟨rfl, rfl⟩
      · exact absurd (hs 'X' (by simp)) (by decide)
  | lowLine hz hx => exact absurd (hs '_' (by simp)) (by decide)

/-- **Without extras only the documented spellings are left.** -/
theorem spelled_iff {s : List Char} {n : Int} (hs : Without isExtra s) :
    Spelled radix s n ↔ Documented radix s n := by
  refine ⟨?_, Documented.spelled⟩
  rintro ⟨hbefore, hsign, hmark, hrun, hafter, hlength⟩
  simp only [without_append] at hs
  obtain ⟨hbefore', hsign', hmark', hrun', hafter'⟩ := hs
  obtain ⟨hwithin, rfl, hshort⟩ := hrun.asciiDigits hrun'
  obtain ⟨rfl, rfl⟩ := none_of_sign hsign hsign'
  rw [nil_of_pads hbefore hbefore', nil_of_pads hafter hafter']
  obtain ⟨c, d, run, rfl, hd⟩ := hrun.exists_digit
  let body : Piece (isAsciiDigit radix) := ⟨c :: run, List.cons_ne_nil c run, hwithin⟩
  rw [List.append_nil, List.nil_append, List.nil_append]
  rcases hmark.eq_of_without hmark' with rfl | ⟨rfl, rfl⟩
  · exact .bare body fun hten => hshort ▸ hlength hten
  · exact .marked body

end SlabWaste.Numeral
