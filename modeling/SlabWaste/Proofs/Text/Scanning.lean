/-
  SlabWaste.Proofs.Text.Scanning
  ──────────────────────────────
  **SCANNERS FIND WHAT WAS WRITTEN.**

  A piece of a class is found again in front of a rest that does not go on with
  the class; `Ends p rest` says so.

      takeSome_append         a piece of any class
      skipBlanks_append       blanks
      Piece.digits?_append    a run of digits, as values

  And what a scanner finds is such a piece:

      skipBlanks_eq_some_iff, digits?_eq_some_iff
-/
import Mathlib.Data.List.TakeWhile
import SlabWaste.Text.Scan

namespace SlabWaste.Text

variable {p : Char → Bool} {piece rest : List Char}

/-! ## §1. Classes of characters. -/

/-- All characters of the text are of the class. -/
def Within (p : Char → Bool) (s : List Char) : Prop := ∀ c ∈ s, p c = true

/-- No character of the text is of the class. -/
def Without (p : Char → Bool) (s : List Char) : Prop := ∀ c ∈ s, p c = false

instance (p : Char → Bool) (s : List Char) : Decidable (Within p s) :=
  decidable_of_iff (s.all p = true) List.all_eq_true

instance (p : Char → Bool) (s : List Char) : Decidable (Without p s) :=
  decidable_of_iff (s.all (!p ·) = true) (by simp [Without])

/-- The code points of the blanks. -/
def blankCodes : List Nat :=
  [9, 10, 11, 12, 13, 28, 29, 30, 31, 32, 0x85, 0xA0, 0x1680, 0x2000, 0x2001, 0x2002, 0x2003,
    0x2004, 0x2005, 0x2006, 0x2007, 0x2008, 0x2009, 0x200A, 0x2028, 0x2029, 0x202F, 0x205F, 0x3000]

/-- There are few blanks, and here they are all listed. -/
theorem toNat_mem_blankCodes {c : Char} (h : isBlank c = true) : c.toNat ∈ blankCodes := by
  unfold isBlank at h
  simp only [Bool.or_eq_true, Bool.and_eq_true, decide_eq_true_eq, beq_iff_eq] at h
  unfold blankCodes
  simp only [List.mem_cons, List.not_mem_nil, or_false]
  omega

/-- What a blank is not. -/
theorem blank_class {c : Char} (h : isBlank c = true) : isWord c = false ∧ isDigit c = false := by
  have hcodes : ∀ n ∈ blankCodes,
      isWord (Char.ofNat n) = false ∧ isDigit (Char.ofNat n) = false := by decide +kernel
  have hc := hcodes c.toNat (toNat_mem_blankCodes h)
  rw [Char.ofNat_toNat] at hc
  exact hc

/-- No character of a word is blank, … -/
theorem not_blank_of_word {c : Char} (h : isWord c = true) : isBlank c = false := by
  cases hblank : isBlank c with
  | false => rfl
  | true =>
      rw [(blank_class hblank).1] at h
      cases h

/-- … and no digit is. -/
theorem not_blank_of_digit {c : Char} (h : isDigit c = true) : isBlank c = false := by
  cases hblank : isBlank c with
  | false => rfl
  | true =>
      rw [(blank_class hblank).2] at h
      cases h

/-- A piece of one or more characters of a class. -/
structure Piece (p : Char → Bool) where
  text : List Char
  ne : text ≠ []
  within : Within p text

/-- A single space. -/
def Piece.space : Piece isBlank := ⟨[' '], by decide, by decide⟩

/-! ## §2. Ends of pieces. -/

/-- The text does not begin with a character of the class. -/
def Ends (p : Char → Bool) (s : List Char) : Prop := ∀ c ∈ s.head?, p c = false

@[simp] theorem ends_nil : Ends p [] := by
  intro c hc
  cases hc

@[simp] theorem ends_cons {c : Char} {s : List Char} : Ends p (c :: s) ↔ p c = false := by
  unfold Ends
  simp

instance (p : Char → Bool) : (s : List Char) → Decidable (Ends p s)
  | [] => isTrue ends_nil
  | _ :: _ => decidable_of_iff _ ends_cons.symm

theorem Ends.append (hpiece : Ends p piece) (hne : piece ≠ []) : Ends p (piece ++ rest) := by
  cases piece with
  | nil => exact absurd rfl hne
  | cons c s => exact ends_cons.mpr (ends_cons.mp hpiece)

/-- A piece does not begin with a class that has nothing in common with its own. -/
theorem Piece.ends {q : Char → Bool} (piece : Piece q) (h : ∀ c, q c = true → p c = false)
    (rest : List Char) : Ends p (piece.text ++ rest) := by
  apply Ends.append _ piece.ne
  intro c hc
  exact h c (piece.within c (List.mem_of_mem_head? hc))

/-- A text in which the class does not occur does not begin with it. -/
theorem Without.ends {s : List Char} (h : Without p s) : Ends p s := by
  intro c hc
  exact h c (List.mem_of_mem_head? hc)

theorem takeWhile_of_ends (h : Ends p rest) : rest.takeWhile p = [] := by
  cases rest with
  | nil => rfl
  | cons c s => rw [List.takeWhile_cons_of_neg (by simpa using h)]

theorem dropWhile_of_ends (h : Ends p rest) : rest.dropWhile p = rest := by
  cases rest with
  | nil => rfl
  | cons c s => rw [List.dropWhile_cons_of_neg (by simpa using h)]

/-! ## §3. Pieces. -/

/-- **A piece is taken up to where it ends**, … -/
theorem takeWhile_append_of_ends (hpiece : Within p piece) (hrest : Ends p rest) :
    (piece ++ rest).takeWhile p = piece := by
  rw [List.takeWhile_append_of_pos hpiece, takeWhile_of_ends hrest, List.append_nil]

/-- … and the rest is left. -/
theorem dropWhile_append_of_ends (hpiece : Within p piece) (hrest : Ends p rest) :
    (piece ++ rest).dropWhile p = rest := by
  rw [List.dropWhile_append_of_pos hpiece, dropWhile_of_ends hrest]

/-- So it is if at least one character has to be taken, … -/
theorem takeSome_append (hne : piece ≠ []) (hpiece : Within p piece)
    (hrest : Ends p rest) : takeSome p (piece ++ rest) = some (piece, rest) := by
  unfold takeSome
  rw [takeWhile_append_of_ends hpiece hrest, dropWhile_append_of_ends hpiece hrest]
  rw [if_neg (by simpa using hne)]

/-- … which fails where there is none. -/
theorem takeSome_of_ends (h : Ends p rest) : takeSome p rest = none := by
  unfold takeSome
  rw [takeWhile_of_ends h]
  rfl

/-- What is taken is not empty, and all of it belongs there. -/
theorem within_of_takeSome {s : List Char} (h : takeSome p s = some (piece, rest)) :
    piece ≠ [] ∧ Within p piece := by
  unfold takeSome at h
  by_cases hnone : (s.takeWhile p).isEmpty = true
  · rw [if_pos hnone] at h
    cases h
  · rw [if_neg hnone] at h
    injection h with h
    injection h with hpiece
    rw [← hpiece]
    exact ⟨by simpa using hnone, fun c hc => List.mem_takeWhile_imp hc⟩

/-- A piece without a class that begins a text stands within what comes before that class. -/
theorem exists_of_without {token tail : List Char} {b : Char} (hpiece : Without p piece)
    (hb : p b = true) (h : token ++ b :: tail = piece ++ rest) :
    ∃ more, token = piece ++ more := by
  rcases List.append_eq_append_iff.mp h with ⟨more, hmore, hrest⟩ | ⟨more, hmore, -⟩
  · cases more with
    | nil => exact ⟨[], by simpa using hmore.symm⟩
    | cons c more =>
        -- the piece would reach as far as the class
        injection hrest with hc
        have hbad := hpiece c (by rw [hmore]; simp)
        rw [← hc, hb] at hbad
        cases hbad
  · exact ⟨more, hmore⟩

/-- What is expected is found where it stands. -/
theorem expect_append (piece rest : List Char) : expect piece (piece ++ rest) = some rest :=
  expect_eq_some_iff.mpr rfl

/-! ## §4. Blanks. -/

/-- Blanks in front are left out, … -/
theorem trimLeft_append (hpiece : Within isBlank piece) (hrest : Ends isBlank rest) :
    trimLeft (piece ++ rest) = rest :=
  dropWhile_append_of_ends hpiece hrest

/-- … if there are any. -/
theorem trimLeft_of_ends (h : Ends isBlank rest) : trimLeft rest = rest := dropWhile_of_ends h

/-- Blanks that have to be there are skipped. -/
theorem skipBlanks_append (hne : piece ≠ []) (hpiece : Within isBlank piece)
    (hrest : Ends isBlank rest) : skipBlanks (piece ++ rest) = some rest := by
  cases piece with
  | nil => exact absurd rfl hne
  | cons c s =>
      have hs : trimLeft (s ++ rest) = rest :=
        trimLeft_append (fun x hx => hpiece x (List.mem_cons_of_mem c hx)) hrest
      show (if isBlank c = true then some (trimLeft (s ++ rest)) else none) = some rest
      rw [if_pos (hpiece c List.mem_cons_self), hs]

/-- A text without blanks at its ends is as it is when trimmed. -/
theorem trim_of_ends {s : List Char} (hstart : Ends isBlank s) (hend : Ends isBlank s.reverse) :
    trim s = s := by
  unfold trim
  rw [trimLeft_of_ends hstart, trimLeft_of_ends hend, List.reverse_reverse]

/-! ## §5. Digits. -/

/-- Digit values as ASCII text. -/
def digitText (ds : List Nat) : List Char := ds.map Nat.digitChar

@[simp] theorem digitText_append (xs ys : List Nat) :
    digitText (xs ++ ys) = digitText xs ++ digitText ys := List.map_append

theorem digitText_ne_nil {ds : List Nat} (h : ds ≠ []) : digitText ds ≠ [] := by
  unfold digitText
  simpa using h

/-- What a decimal digit is and what it is not. -/
theorem digitChar_class {d : Nat} (h : d < 10) :
    digitValue? (Nat.digitChar d) = some d ∧ isBlank (Nat.digitChar d) = false
      ∧ Nat.digitChar d ≠ '\n' ∧ Nat.digitChar d ≠ '\r' := by
  revert d
  decide

/-- It has digits only, … -/
theorem within_digitText {ds : List Nat} (h : ∀ d ∈ ds, d < 10) :
    Within isDigit (digitText ds) := by
  intro c hc
  obtain ⟨d, hd, rfl⟩ := List.mem_map.mp hc
  unfold isDigit
  rw [(digitChar_class (h d hd)).1]
  rfl

/-- … and they are read back one by one. -/
theorem filterMap_digitValue?_digitText {ds : List Nat} (h : ∀ d ∈ ds, d < 10) :
    (digitText ds).filterMap digitValue? = ds := by
  induction ds with
  | nil => rfl
  | cons d ds ih =>
      have hd := (digitChar_class (h d List.mem_cons_self)).1
      show (Nat.digitChar d :: digitText ds).filterMap digitValue? = _
      rw [List.filterMap_cons_some hd, ih fun x hx => h x (List.mem_cons_of_mem d hx)]

/-- A run of digits of any scripts is found with its values. -/
theorem digits?_of_isDigit (hne : piece ≠ []) (hpiece : Within isDigit piece)
    (hrest : Ends isDigit rest) :
    digits? (piece ++ rest) = some (piece.filterMap digitValue?, rest) := by
  unfold digits?
  rw [takeSome_append hne hpiece hrest]
  rfl

/-- Digits that are read are a piece of the text. -/
theorem exists_of_digits? {s : List Char} {ds : List Nat} (h : digits? s = some (ds, rest)) :
    ∃ piece : Piece isDigit, s = piece.text ++ rest := by
  unfold digits? at h
  obtain ⟨⟨run, after⟩, hrun, heq⟩ := Option.map_eq_some_iff.mp h
  injection heq with _ hrest
  subst hrest
  obtain ⟨hne, hwithin⟩ := within_of_takeSome hrun
  exact ⟨⟨run, hne, hwithin⟩, (append_of_takeSome hrun).symm⟩

/-- A run of digits is read up to where it ends. -/
theorem Piece.digits?_append (piece : Piece isDigit) (hrest : Ends isDigit rest) :
    digits? (piece.text ++ rest) = some (piece.text.filterMap digitValue?, rest) :=
  digits?_of_isDigit piece.ne piece.within hrest

/-- The piece of digits with given values. -/
def Piece.ofValues (ds : List Nat) (hne : ds ≠ []) (h : ∀ d ∈ ds, d < 10) : Piece isDigit :=
  ⟨digitText ds, digitText_ne_nil hne, within_digitText h⟩

/-- Where none stands, none is read. -/
theorem digits?_of_ends (h : Ends isDigit rest) : digits? rest = none := by
  unfold digits?
  rw [takeSome_of_ends h]
  rfl

/-! ## §6. What is found was written. -/

variable {s : List Char} {ds : List Nat}

theorem ends_dropWhile (p : Char → Bool) (s : List Char) : Ends p (s.dropWhile p) := by
  intro c hc
  have hne : s.dropWhile p ≠ [] := by
    intro hnil
    rw [hnil] at hc
    cases hc
  have hhead := List.head_dropWhile_not p hne
  rw [List.head?_eq_some_head hne] at hc
  injection hc with hc
  rw [← hc]
  simpa using hhead

/-- A text that begins with one class, or at once with what follows it, does not begin with another
class. -/
theorem Within.ends_append {q : Char → Bool} {piece : List Char} (hpiece : Within q piece)
    (h : ∀ c, q c = true → p c = false) (hrest : Ends p rest) : Ends p (piece ++ rest) := by
  cases piece with
  | nil => exact hrest
  | cons c t => exact ends_cons.mpr (h c (hpiece c List.mem_cons_self))

/-- What is left without the blanks in front. -/
theorem exists_of_trimLeft (s : List Char) :
    ∃ blanks, Within isBlank blanks ∧ s = blanks ++ trimLeft s ∧ Ends isBlank (trimLeft s) :=
  ⟨s.takeWhile isBlank, fun _ hc => List.mem_takeWhile_imp hc,
    List.takeWhile_append_dropWhile.symm, ends_dropWhile isBlank s⟩

/-- Blanks are skipped just if there is one, and then all of them are. -/
theorem skipBlanks_eq_some_iff :
    skipBlanks s = some rest ↔ ∃ gap : Piece isBlank, s = gap.text ++ rest ∧ Ends isBlank rest := by
  constructor
  · intro h
    cases s with
    | nil => cases h
    | cons c t =>
        have h : (if isBlank c then some (trimLeft t) else none) = some rest := h
        split at h
        · next hc =>
            injection h with h
            subst h
            obtain ⟨blanks, hblanks, ht, hends⟩ := exists_of_trimLeft t
            refine ⟨⟨c :: blanks, List.cons_ne_nil c blanks, ?_⟩, congrArg (c :: ·) ht, hends⟩
            exact List.forall_mem_cons.mpr ⟨hc, hblanks⟩
        · cases h
  · rintro ⟨gap, rfl, hends⟩
    exact skipBlanks_append gap.ne gap.within hends

/-- Digits are read just if there is one, and then all of them are. -/
theorem digits?_eq_some_iff :
    digits? s = some (ds, rest)
      ↔ ∃ run : Piece isDigit, s = run.text ++ rest ∧ Ends isDigit rest
        ∧ ds = run.text.filterMap digitValue? := by
  constructor
  · intro h
    unfold digits? takeSome at h
    split at h
    · cases h
    · next hne =>
        injection h with h
        injection h with hds hrest
        have hrun : s.takeWhile isDigit ≠ [] := by simpa using hne
        refine ⟨⟨_, hrun, fun c hc => List.mem_takeWhile_imp hc⟩, ?_, ?_, hds.symm⟩
        · rw [← hrest]
          exact List.takeWhile_append_dropWhile.symm
        · rw [← hrest]
          exact ends_dropWhile isDigit s
  · rintro ⟨run, rfl, hends, rfl⟩
    exact run.digits?_append hends

end SlabWaste.Text
