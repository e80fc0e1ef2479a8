/-
  SlabWaste.Proofs.Number.Printed
  ───────────────────────────────
  **PRINTED NUMBERS READ BACK.**

      value_digitValues  the digits of a number denote it
      read_digitText     digits read as what they denote
      read_decimal       a number in decimal reads as itself, if it is short enough
      read_hexadecimal   and so does one in hexadecimal, of any length
-/
import SlabWaste.Number.Numeral
import SlabWaste.Proofs.Text.Scanning

namespace SlabWaste.Numeral

open SlabWaste.Text

/-! ## §1. Values. -/

/-- One more digit at the end makes a number as many times larger as the base says. -/
theorem value_append_singleton (radix : Radix) (ds : List Nat) (d : Nat) :
    value radix (ds ++ [d]) = value radix ds * radix.toNat + d := by
  unfold value
  rw [List.foldl_append]
  rfl

/-- Zeros in front change nothing. -/
theorem value_replicate_zero_append (radix : Radix) (k : Nat) (ds : List Nat) :
    value radix (List.replicate k 0 ++ ds) = value radix ds := by
  induction k with
  | zero => rfl
  | succ k ih =>
      rw [← ih]
      unfold value
      rw [List.replicate_succ, List.cons_append, List.foldl_cons, Nat.zero_mul]

theorem one_lt_toNat (radix : Radix) : 1 < radix.toNat := by
  cases radix with
  | ten => decide
  | sixteen => decide

/-! ## §2. The digits of a number. -/

/-- The digit values of a number, most significant first. -/
def digitValues (radix : Radix) (n : Nat) : List Nat :=
  if n < radix.toNat then [n]
  else digitValues radix (n / radix.toNat) ++ [n % radix.toNat]
termination_by n
decreasing_by
  have h := one_lt_toNat radix
  exact Nat.div_lt_self (by omega) h

/-- What is printed of a number are its digits, … -/
theorem toDigits_eq_digitText (radix : Radix) (n : Nat) :
    Nat.toDigits radix.toNat n = digitText (digitValues radix n) := by
  induction n using digitValues.induct radix with
  | case1 n h =>
      rw [digitValues, if_pos h, Nat.toDigits_of_lt_base h]
      rfl
  | case2 n h ih =>
      rw [digitValues, if_neg h, digitText_append, ← ih,
        Nat.toDigits_of_base_le (one_lt_toNat radix) (Nat.le_of_not_lt h)]
      rfl

/-- … and these denote it. -/
theorem value_digitValues (radix : Radix) (n : Nat) : value radix (digitValues radix n) = n := by
  induction n using digitValues.induct radix with
  | case1 n h =>
      rw [digitValues, if_pos h]
      show 0 * radix.toNat + n = n
      omega
  | case2 n h ih =>
      rw [digitValues, if_neg h, value_append_singleton, ih]
      exact Nat.div_add_mod' n radix.toNat

/-- No digit is as large as the base. -/
theorem digitValues_lt (radix : Radix) (n : Nat) :
    ∀ d ∈ digitValues radix n, d < radix.toNat := by
  induction n using digitValues.induct radix with
  | case1 n h =>
      rw [digitValues, if_pos h]
      intro d hd
      rw [List.mem_singleton.mp hd]
      exact h
  | case2 n h ih =>
      rw [digitValues, if_neg h]
      intro d hd
      rcases List.mem_append.mp hd with hd | hd
      · exact ih d hd
      · rw [List.mem_singleton.mp hd]
        have hradix := one_lt_toNat radix
        exact Nat.mod_lt n (by omega)

/-- Even zero has a digit. -/
theorem digitValues_ne_nil (radix : Radix) (n : Nat) : digitValues radix n ≠ [] := by
  rw [digitValues]
  split
  · simp
  · simp

/-- A number with no more digits than may be read. -/
def Short (n : Nat) : Prop := (Nat.toDigits 10 n).length ≤ digitLimit

instance (n : Nat) : Decidable (Short n) := inferInstanceAs (Decidable (_ ≤ _))

/-- A number that is short enough has no more digits than may be read. -/
theorem Short.length_digitValues_le {n : Nat} (h : Short n) :
    (digitValues .ten n).length ≤ digitLimit := by
  have hlength : (digitText (digitValues .ten n)).length ≤ digitLimit := by
    rw [← toDigits_eq_digitText]
    exact h
  simpa [digitText] using hlength

/-! ## §3. Reading digits. -/

/-- What a digit is to the reader of numbers. -/
theorem digit?_digitChar {radix : Radix} {d : Nat} (h : d < radix.toNat) :
    digit? radix (Nat.digitChar d) = some d := by
  cases radix with
  | ten =>
      revert d
      decide
  | sixteen =>
      revert d
      decide

/-- The characters to which the reader of numbers gives a meaning other than a digit's. -/
def marks : List Char := ['-', '+', '_', 'x', 'X', '(']

/-- A digit is no mark and no blank. -/
theorem digitChar_not_mark {d : Nat} (h : d < 16) :
    isPad (Nat.digitChar d) = false ∧ isBlank (Nat.digitChar d) = false
      ∧ Nat.digitChar d ∉ marks := by
  revert d
  decide

theorem digitChar_ne {d : Nat} (h : d < 16) {c : Char} (hc : c ∈ marks) : Nat.digitChar d ≠ c :=
  fun heq => (digitChar_not_mark h).2.2 (heq ▸ hc)

theorem lt_sixteen {radix : Radix} {d : Nat} (h : d < radix.toNat) : d < 16 := by
  cases radix with
  | ten => exact Nat.lt_trans h (by decide)
  | sixteen => exact h

/-- No digit of a number is blank. -/
theorem isBlank_toDigits (radix : Radix) (n : Nat) :
    Without isBlank (Nat.toDigits radix.toNat n) := by
  rw [toDigits_eq_digitText]
  intro c hc
  obtain ⟨d, hd, rfl⟩ := List.mem_map.mp hc
  exact (digitChar_not_mark (lt_sixteen (digitValues_lt radix n d hd))).2.1

/-- A run of digits is read to its end. -/
theorem digitRun_digitText {radix : Radix} (sought : Bool) (found : List Nat) {ds : List Nat}
    (h : ∀ d ∈ ds, d < radix.toNat) (hsought : sought = true → ds ≠ []) :
    digitRun radix sought found (digitText ds) = some (found.reverse ++ ds, []) := by
  induction ds generalizing sought found with
  | nil =>
      cases sought with
      | true => exact absurd rfl (hsought rfl)
      | false => simp [digitText, digitRun]
  | cons d ds ih =>
      have hd : d < radix.toNat := h d List.mem_cons_self
      have hlow : d < 16 := lt_sixteen hd
      show digitRun radix sought found (Nat.digitChar d :: digitText ds) = _
      rw [digitRun, if_neg (digitChar_ne hlow (by decide)), digit?_digitChar hd]
      show digitRun radix false (d :: found) (digitText ds) = _
      rw [ih false (d :: found) (fun x hx => h x (List.mem_cons_of_mem d hx)) (by simp)]
      simp

/-- Digits read as the number that they denote. -/
theorem read_digitText {radix : Radix} {ds : List Nat} (hne : ds ≠ [])
    (h : ∀ d ∈ ds, d < radix.toNat) (hshort : radix = .ten → ds.length ≤ digitLimit) :
    read radix (String.ofList (digitText ds)) = .ok (value radix ds) := by
  have hlow : ∀ d ∈ ds, d < 16 := fun d hd => lt_sixteen (h d hd)
  have hpads : Without isPad (digitText ds) := by
    intro c hc
    obtain ⟨d, hd, rfl⟩ := List.mem_map.mp hc
    exact (digitChar_not_mark (hlow d hd)).1
  have hmarks : ∀ c ∈ digitText ds, c ∉ marks := by
    intro c hc
    obtain ⟨d, hd, rfl⟩ := List.mem_map.mp hc
    exact (digitChar_not_mark (hlow d hd)).2.2
  have hpad : (digitText ds).dropWhile isPad = digitText ds := dropWhile_of_ends hpads.ends
  -- the first character is a digit, so there is no sign in front of it
  have hsign : sign (digitText ds) = (false, digitText ds) := by
    unfold sign
    split
    · next s hs => exact absurd (by decide) (hmarks '-' (by rw [hs]; simp))
    · next s hs => exact absurd (by decide) (hmarks '+' (by rw [hs]; simp))
    · rfl
  -- and the second is a digit, so it does not mark a base
  have hmark : dropMark radix (digitText ds) = digitText ds := by
    unfold dropMark
    split
    · next z x s hs =>
        have hx : x ∉ marks := hmarks x (by rw [hs]; simp)
        rw [if_neg, hs]
        rintro ⟨-, -, rfl | rfl⟩
        · exact hx (by decide)
        · exact hx (by decide)
    · rfl
  have hrun : digitRun radix true [] (digitText ds) = some (ds, []) :=
    digitRun_digitText true [] h fun _ => hne
  have hlength : ¬ (radix = .ten ∧ digitLimit < ds.length) := by
    rintro ⟨hten, hlong⟩
    have hle := hshort hten
    omega
  unfold read
  rw [String.toList_ofList, hpad, hsign]
  simp only [hmark, hrun]
  rw [if_neg hlength]
  rfl

/-! ## §4. Printed numbers. -/

/-- **A number that is printed in base ten is read back**, if it is short enough; … -/
theorem read_decimal {n : Nat} (h : Short n) :
    read .ten (String.ofList (Nat.toDigits 10 n)) = .ok n := by
  rw [show Nat.toDigits 10 n = digitText (digitValues .ten n) from
      toDigits_eq_digitText .ten n,
    read_digitText (digitValues_ne_nil .ten n) (digitValues_lt .ten n) fun _ =>
      h.length_digitValues_le,
    value_digitValues]

/-- … and in base sixteen whatever its length. -/
theorem read_hexadecimal (n : Nat) :
    read .sixteen (String.ofList (Nat.toDigits 16 n)) = .ok n := by
  rw [show Nat.toDigits 16 n = digitText (digitValues .sixteen n) from
      toDigits_eq_digitText .sixteen n,
    read_digitText (digitValues_ne_nil .sixteen n) (digitValues_lt .sixteen n) (by simp),
    value_digitValues]

/-- Digits that are not too many denote a number. -/
theorem ofDigits_of_short {ds : List Nat} (h : ds.length ≤ digitLimit) :
    ofDigits ds = .ok (value .ten ds) := by
  unfold ofDigits
  rw [if_neg (by omega)]

end SlabWaste.Numeral
