/-
  SlabWaste.Proofs.Ring.Units
  ───────────────────────────
  **A SIZE FILLS ITS UNIT.**

  The unit is chosen on the exact number of bytes and the figure in front of it is
  rounded afterwards, to one place.  Up to `2 ^ 53` the division by a unit is exact,
  so the figure is rounded once:

      FillsUnit          the largest unit that a number fills
      NearestEven        the nearest integer, of two the even one
      Shown              the figure and the unit of a number
      shown_humanSize    every number is shown so

  The figure is never below 1.0.  It reaches 1024.0, which is one of the next unit,
  for numbers that are less than a twentieth of a unit short of it.

  Main result: `humanSize_in_unit`.
-/
import SlabWaste.Proofs.Number.Exact
import SlabWaste.Ring.Size

namespace SlabWaste

/-! ## §1. The nearest integer. -/

/-- An integer is the one nearest to a number, and of two equally near ones the even one. -/
structure NearestEven (m : Int) (q : Rat) : Prop where
  near : |(m : Rat) - q| ≤ 1 / 2
  even : |(m : Rat) - q| = 1 / 2 → m % 2 = 0

/-- Rounding finds the nearest integer, and of two the even one. -/
theorem nearestEven_roundToEven (q : Rat) : NearestEven (roundToEven q) q := by
  refine ⟨abs_roundToEven_sub_le q, fun htie => ?_⟩
  have hlow : (q.floor : Rat) ≤ q := Int.floor_le q
  have hhigh : q < q.floor + 1 := Int.lt_floor_add_one q
  unfold roundToEven at htie ⊢
  simp only at htie ⊢
  split_ifs at htie ⊢ with hless hmore heven
  · rw [abs_of_nonpos (by linarith)] at htie
    linarith
  · push_cast at htie
    rw [abs_of_nonneg (by linarith)] at htie
    linarith
  · exact heven
  · omega

/-! ## §2. Places. -/

namespace Binary64

/-- The point goes in front of the places. -/
theorem withPoint_append {whole places : List Char} (hwhole : whole ≠ []) (hplaces : places ≠ []) :
    withPoint places.length (whole ++ places) = whole ++ '.' :: places := by
  have hlength : 0 < whole.length := List.length_pos_iff.mpr hwhole
  have hnone : places.length ≠ 0 := fun h => hplaces (List.length_eq_zero_iff.mp h)
  have hpadding : places.length + 1 - (whole ++ places).length = 0 := by
    rw [List.length_append]
    omega
  have hpoint : (whole ++ places).length - places.length = whole.length := by
    rw [List.length_append]
    omega
  unfold withPoint
  simp only [hpadding, List.replicate_zero, List.nil_append, hpoint, List.take_left,
    List.drop_left]
  rw [if_neg hnone]

end Binary64

open Numeral

/-- A number of tenths as text. -/
def tenths (m : Nat) : String := digits (m / 10) ++ "." ++ digits (m % 10)

/-- The digits of a number of tenths, with a point in front of the last. -/
theorem withPoint_toDigits {m : Nat} (h : 10 ≤ m) :
    String.ofList (Binary64.withPoint 1 (Nat.toDigits 10 m)) = tenths m := by
  have hlast : Nat.toDigits 10 (m % 10) = [Nat.digitChar (m % 10)] :=
    Nat.toDigits_of_lt_base (Nat.mod_lt m (by decide))
  have hdigits : Nat.toDigits 10 m = Nat.toDigits 10 (m / 10) ++ [Nat.digitChar (m % 10)] :=
    Nat.toDigits_of_base_le (by decide) h
  have hwhole : Nat.toDigits 10 (m / 10) ≠ [] := Nat.toDigits_ne_nil
  have hpoint := Binary64.withPoint_append hwhole (List.cons_ne_nil (Nat.digitChar (m % 10)) [])
  rw [List.length_singleton] at hpoint
  rw [← String.toList_inj, String.toList_ofList, hdigits, hpoint]
  unfold tenths digits
  simp [hlast]

/-- With one place a number is shown by its tenths. -/
theorem fixedRat_one {q : Rat} (h : 1 ≤ q) :
    Binary64.fixedRat 1 q = tenths (roundToEven (q * 10)).toNat := by
  have hpos : 0 < q := one_pos.trans_le h
  have hround : 10 ≤ roundToEven (q * 10) := le_roundToEven (by push_cast; linarith)
  have hten : Binary64.tenTo (1 : Nat) = 10 := by
    unfold Binary64.tenTo
    norm_num
  have habs : (roundToEven (q * 10)).natAbs = (roundToEven (q * 10)).toNat := by omega
  have hnegative : ¬ (q < 0 ∧ roundToEven (q * 10) ≠ 0) := fun h => absurd h.1 (not_lt.mpr hpos.le)
  unfold Binary64.fixedRat
  simp only [Binary64.magnitude_of_nonneg hpos.le, hten, if_neg hnegative]
  rw [habs]
  exact withPoint_toDigits (by omega)

namespace Ring

/-! ## §3. Units. -/

/-- The unit in which a number of bytes is shown is the largest that the number fills. -/
structure FillsUnit (n : Int) (u : Nat × String) : Prop where
  mem : u ∈ units
  le : (u.1 : Int) ≤ n
  largest : ∀ v ∈ units, (v.1 : Int) ≤ n → v.1 ≤ u.1

theorem pairwise_units : units.Pairwise fun u v => v.1 < u.1 := by decide

/-- In a list of descending units the first one that is filled is the largest. -/
theorem fillsUnit_of_find? {n : Int} {u : Nat × String}
    (h : units.find? (fun u => decide ((u.1 : Int) ≤ n)) = some u) : FillsUnit n u := by
  obtain ⟨hle, before, after, hsplit, hbefore⟩ := List.find?_eq_some_iff_append.mp h
  refine ⟨?_, of_decide_eq_true hle, fun v hv hvn => ?_⟩
  · rw [hsplit]
    simp
  · have hordered := pairwise_units
    rw [hsplit] at hv hordered
    rcases List.mem_append.mp hv with hv | hv
    · have hnot := hbefore v hv
      simp [hvn] at hnot
    rcases List.mem_cons.mp hv with rfl | hv
    · exact Nat.le_refl _
    · exact ((List.pairwise_cons.mp (List.pairwise_append.mp hordered).2.1).1 v hv).le

/-- From one byte on, the unit that is chosen is the largest that is filled. -/
theorem fillsUnit_unitFor {n : Int} (h : 1 ≤ n) : FillsUnit n (unitFor n) := by
  unfold unitFor
  cases hfind : units.find? (fun u => decide ((u.1 : Int) ≤ n)) with
  | some u => exact fillsUnit_of_find? hfind
  | none =>
      -- every number fills the byte
      have hbyte := List.find?_eq_none.mp hfind (1, "bytes") (by decide)
      simp at hbyte
      omega

/-- A unit is a power of two. -/
theorem exists_two_pow_of_mem {u : Nat × String} (h : u ∈ units) :
    ∃ k ≤ 1074, u.1 = 2 ^ k := by
  have hevery : ∀ u ∈ units, ∃ k ∈ [50, 40, 30, 20, 10, 0], u.1 = 2 ^ k := by decide
  obtain ⟨k, hk, hu⟩ := hevery u h
  have hsmall : ∀ k ∈ [50, 40, 30, 20, 10, 0], k ≤ 1074 := by decide
  exact ⟨k, hsmall k hk, hu⟩

namespace FillsUnit

variable {n : Int} {u : Nat × String}

/-- A number fills less than the next unit. -/
theorem lt_next (h : FillsUnit n u) (hlast : u.2 ≠ "PB") : n < 1024 * u.1 := by
  have hnext : ∀ u ∈ units, u.2 ≠ "PB" → ∃ v ∈ units, v.1 = 1024 * u.1 := by decide
  obtain ⟨v, hv, hfactor⟩ := hnext u h.mem hlast
  have hpos : ∀ u ∈ units, 0 < u.1 := by decide
  have hunit := hpos u h.mem
  by_contra hle
  have hlargest := h.largest v hv (by rw [hfactor]; push_cast; omega)
  omega

theorem unit_pos (h : FillsUnit n u) : (0 : Rat) < u.1 := by
  have hpos : ∀ u ∈ units, 0 < u.1 := by decide
  exact_mod_cast hpos u h.mem

/-- Up to `2 ^ 53` the division by a unit is exact. -/
theorem quotient?_eq (h : FillsUnit n u) (hn : n < 2 ^ 53) :
    Binary64.quotient? n u.1 = some (.finite ((n : Rat) / u.1)) := by
  obtain ⟨k, hk, hu⟩ := exists_two_pow_of_mem h.mem
  have hle := h.le
  obtain ⟨m, rfl⟩ := Int.eq_ofNat_of_zero_le (by omega : 0 ≤ n)
  have hm : m < 2 ^ 53 := by exact_mod_cast hn
  have hround := Binary64.round_div_two_pow hm hk
  unfold Binary64.quotient? Binary64.roundFinite?
  rw [hu]
  push_cast
  rw [hround]

end FillsUnit

/-! ## §4. Sizes. -/

/-- A number of bytes is shown as so many tenths of a unit. -/
structure Shown (n : Int) (u : Nat × String) (m : Nat) : Prop where
  unit : FillsUnit n u
  nearest : NearestEven m ((n : Rat) / u.1 * 10)
  text : humanSize n = .ok (tenths m ++ " " ++ u.2)

/-- **Every number of bytes is shown in the largest unit that it fills**, rounded once. -/
theorem shown_humanSize {n : Int} (hlow : 2 ≤ n) (hhigh : n < 2 ^ 53) :
    ∃ m, Shown n (unitFor n) m := by
  have hunit := fillsUnit_unitFor (by omega : 1 ≤ n)
  have hquotient := hunit.quotient?_eq hhigh
  have hone : (1 : Rat) ≤ (n : Rat) / (unitFor n).1 := by
    rw [one_le_div hunit.unit_pos]
    exact_mod_cast hunit.le
  -- the tenths are a natural number
  have hround : 0 ≤ roundToEven ((n : Rat) / (unitFor n).1 * 10) :=
    le_roundToEven (by push_cast; linarith)
  refine ⟨(roundToEven ((n : Rat) / (unitFor n).1 * 10)).toNat, hunit, ?_, ?_⟩
  · rw [Int.toNat_of_nonneg hround]
    exact nearestEven_roundToEven _
  · rw [← fixedRat_one hone]
    unfold humanSize
    rw [if_neg (by omega)]
    simp only [hquotient]
    rfl

namespace Shown

variable {n : Int} {u : Nat × String} {m : Nat}

/-- A figure is 1.0 at least, … -/
theorem ten_le (h : Shown n u m) : 10 ≤ m := by
  have hone : (1 : Rat) ≤ (n : Rat) / u.1 := by
    rw [one_le_div h.unit.unit_pos]
    exact_mod_cast h.unit.le
  have hnear := abs_le.mp h.nearest.near
  push_cast at hnear
  have hlt : (9 : Rat) < m := by linarith
  exact_mod_cast hlt

/-- … and 1024.0 at most, if there is a larger unit. -/
theorem le_next (h : Shown n u m) (hlast : u.2 ≠ "PB") : m ≤ 10240 := by
  have hless : (n : Rat) / u.1 < 1024 := by
    rw [div_lt_iff₀ h.unit.unit_pos]
    exact_mod_cast h.unit.lt_next hlast
  have hnear := abs_le.mp h.nearest.near
  push_cast at hnear
  have hlt : (m : Rat) < 10241 := by linarith
  have hlt : m < 10241 := by exact_mod_cast hlt
  omega

/-- The figure is that of the next unit for what is less than a twentieth of a unit short of it. -/
theorem eq_next_iff (h : Shown n u m) (hlast : u.2 ≠ "PB") :
    m = 10240 ↔ 20479 * (u.1 : Int) ≤ 20 * n := by
  have hle := h.le_next hlast
  have hnear := abs_le.mp h.nearest.near
  push_cast at hnear
  have hscaled : 20479 * (u.1 : Int) ≤ 20 * n ↔ (20479 : Rat) / 20 ≤ (n : Rat) / u.1 := by
    rw [div_le_div_iff₀ (by norm_num) h.unit.unit_pos, mul_comm (n : Rat)]
    exact_mod_cast Iff.rfl
  rw [hscaled]
  constructor
  · rintro rfl
    push_cast at hnear
    linarith
  · intro hlarge
    by_contra hne
    have hbelow : (m : Rat) ≤ 10239 := by exact_mod_cast (by omega : m ≤ 10239)
    -- it is half a unit of the last place from 10239, which is odd
    have htie : (n : Rat) / u.1 * 10 = 10239 + 1 / 2 := by linarith
    have hm : m = 10239 := by
      have hge : (10239 : Rat) ≤ m := by linarith
      have hge : 10239 ≤ m := by exact_mod_cast hge
      omega
    have heven := h.nearest.even (by rw [htie, hm]; norm_num)
    omega

end Shown

/-- **A size fills its unit.**  A number of bytes from 2 up to `2 ^ 53` (excluded) is shown in the
largest unit that it fills, as the nearest number of tenths of it, of two the even one.  The figure
is 1.0 or more and, short of the largest unit, 1024.0 or less.  It is 1024.0 just for numbers that
are 1023.95 units or more. -/
theorem humanSize_in_unit {n : Int} (hlow : 2 ≤ n) (hhigh : n < 2 ^ 53) :
    ∃ u m, Shown n u m ∧ 10 ≤ m
      ∧ (u.2 ≠ "PB" → m ≤ 10240 ∧ (m = 10240 ↔ 20479 * (u.1 : Int) ≤ 20 * n)) := by
  obtain ⟨m, h⟩ := shown_humanSize hlow hhigh
  exact ⟨unitFor n, m, h, h.ten_le, fun hlast => ⟨h.le_next hlast, h.eq_next_iff hlast⟩⟩

/-- A byte less than a unit is less than a twentieth of the unit below short of it. -/
theorem FillsUnit.close_to_next {u : Nat × String} (h : FillsUnit 1048575 u) :
    u.2 ≠ "PB" ∧ 20479 * (u.1 : Int) ≤ 20 * 1048575 := by
  have hkilo : ∀ u ∈ units, (u.1 : Int) ≤ 1048575 → (∀ v ∈ units, (v.1 : Int) ≤ 1048575 →
      v.1 ≤ u.1) → u.2 ≠ "PB" ∧ 20479 * (u.1 : Int) ≤ 20 * 1048575 := by decide
  exact hkilo u h.mem h.le h.largest

/-- One byte short of a megabyte, the figure is 1024.0. -/
theorem humanSize_in_unit_lastByte :
    (2 : Int) ≤ 1048575 ∧ (1048575 : Int) < 2 ^ 53 ∧ ∃ u m, Shown 1048575 u m ∧ m = 10240 := by
  have hlow : (2 : Int) ≤ 1048575 := by decide
  have hhigh : (1048575 : Int) < 2 ^ 53 := by decide
  obtain ⟨u, m, hshown, -, hbound⟩ := humanSize_in_unit hlow hhigh
  obtain ⟨hlast, hlarge⟩ := hshown.unit.close_to_next
  exact ⟨hlow, hhigh, u, m, hshown, (hbound hlast).2.mpr hlarge⟩

/-- So the figure of a number of bytes is not always below that of the next unit. -/
theorem humanSize_out_of_unit :
    humanSize 1048575 = .ok "1024.0 kB"
      ∧ ¬ ∃ u m, Shown 1048575 u m ∧ 10 ≤ m ∧ (u.2 ≠ "PB" → m < 10240) := by
  refine ⟨by decide +kernel, ?_⟩
  rintro ⟨u, m, hshown, -, hbelow⟩
  obtain ⟨hlast, hlarge⟩ := hshown.unit.close_to_next
  have hnext := (hshown.eq_next_iff hlast).mpr hlarge
  have hlt := hbelow hlast
  omega

end Ring

end SlabWaste
