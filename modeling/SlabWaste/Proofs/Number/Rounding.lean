/-
  SlabWaste.Proofs.Number.Rounding
  ────────────────────────────────
  **ROUNDING KEEPS ORDER, BUT NOT DISTANCE.**

  A time is the number of 64 bits nearest to a decimal.  Of two decimals the
  greater one is never read as less:

      round_le_round      rounding is monotone

  Two different ones may be read as the same number, though, once they are closer
  than its neighbours.  Where the last of `k` places still counts for more than
  the distance of neighbours, they are told apart:

      nearest_error       rounding moves a number by half that distance at most
      round_ne_round      fewer than `2 ^ 52` units of the last place
-/
import Mathlib.Algebra.Order.Floor.Ring
import Mathlib.Algebra.Order.Field.Power
import Mathlib.Data.Rat.Floor
import Mathlib.Tactic.Linarith
import Mathlib.Tactic.NormNum
import SlabWaste.Proofs.Number.Order

namespace SlabWaste

/-! ## §1. To the nearest integer. -/

/-- Rounding goes down by no more than a half, or up by no more than a half. -/
theorem roundToEven_cases (q : Rat) :
    (roundToEven q = q.floor ∧ q - q.floor ≤ 1 / 2)
      ∨ (roundToEven q = q.floor + 1 ∧ 1 / 2 ≤ q - q.floor) := by
  unfold roundToEven
  simp only
  split_ifs with hless hmore heven
  · exact Or.inl ⟨rfl, le_of_lt hless⟩
  · exact Or.inr ⟨rfl, le_of_lt hmore⟩
  · exact Or.inl ⟨rfl, not_lt.mp hmore⟩
  · exact Or.inr ⟨rfl, not_lt.mp hless⟩

/-- The nearest integer is half a unit away at most. -/
theorem abs_roundToEven_sub_le (q : Rat) : |(roundToEven q : Rat) - q| ≤ 1 / 2 := by
  have hlow : (q.floor : Rat) ≤ q := Int.floor_le q
  have hhigh : q < q.floor + 1 := Int.lt_floor_add_one q
  rw [abs_le]
  rcases roundToEven_cases q with ⟨hround, hpart⟩ | ⟨hround, hpart⟩
  · rw [hround]
    constructor <;> linarith
  · rw [hround]
    push_cast
    constructor <;> linarith

/-- Rounding never passes an integer, neither from below … -/
theorem roundToEven_le {q : Rat} {n : Int} (h : q ≤ n) : roundToEven q ≤ n := by
  have herror := (abs_le.mp (abs_roundToEven_sub_le q)).2
  have hlt : (roundToEven q : Rat) < n + 1 := by linarith
  exact Int.lt_add_one_iff.mp (by exact_mod_cast hlt)

/-- … nor from above. -/
theorem le_roundToEven {q : Rat} {n : Int} (h : (n : Rat) ≤ q) : n ≤ roundToEven q := by
  have herror := (abs_le.mp (abs_roundToEven_sub_le q)).1
  have hlt : (n : Rat) < roundToEven q + 1 := by linarith
  exact Int.lt_add_one_iff.mp (by exact_mod_cast hlt)

/-- What is larger is rounded to no less. -/
theorem roundToEven_mono {x y : Rat} (h : x ≤ y) : roundToEven x ≤ roundToEven y := by
  have hfloor : x.floor ≤ y.floor := Int.floor_le_floor h
  rcases lt_or_eq_of_le hfloor with hless | hsame
  · -- an integer stands between the two
    have hx : roundToEven x ≤ y.floor := by
      rcases roundToEven_cases x with ⟨hround, -⟩ | ⟨hround, -⟩ <;> omega
    exact hx.trans (le_roundToEven (Int.floor_le y))
  · -- the same two neighbours, and the same even one among them
    unfold roundToEven
    simp only [hsame]
    split_ifs <;> first | omega | linarith

namespace Binary64

/-! ## §2. Binades. -/

/-- The lengths of numerator and denominator fix the binade up to one. -/
theorem log2_bounds {q : Rat} (h : 0 < q) :
    (2 : Rat) ^ ((q.num.natAbs.log2 : Int) - q.den.log2 - 1) ≤ q
      ∧ q < (2 : Rat) ^ ((q.num.natAbs.log2 : Int) - q.den.log2 + 1) := by
  have hnum : 0 < q.num := Rat.num_pos.mpr h
  have hvalue : q * q.den = q.num.natAbs := by
    have habs : ((q.num.natAbs : Int) : Rat) = q.num := by rw [Int.natAbs_of_nonneg hnum.le]
    rw [Rat.mul_den_eq_num, ← habs]
    rfl
  have hnumLow : ((2 ^ q.num.natAbs.log2 : Nat) : Rat) ≤ q.num.natAbs := by
    exact_mod_cast Nat.log2_self_le (by omega)
  have hnumHigh : (q.num.natAbs : Rat) < (2 ^ (q.num.natAbs.log2 + 1) : Nat) := by
    exact_mod_cast Nat.lt_log2_self
  have hdenLow : ((2 ^ q.den.log2 : Nat) : Rat) ≤ q.den := by
    exact_mod_cast Nat.log2_self_le q.den_nz
  have hdenHigh : (q.den : Rat) < (2 ^ (q.den.log2 + 1) : Nat) := by
    exact_mod_cast Nat.lt_log2_self
  push_cast at hnumLow hnumHigh hdenLow hdenHigh
  -- multiplied out, each bound compares the numerator with a power of two times the denominator
  constructor
  · have hexponent : (q.num.natAbs.log2 : Int) - q.den.log2 - 1
        = (q.num.natAbs.log2 : Int) - ((q.den.log2 + 1 : Nat) : Int) := by omega
    rw [hexponent, zpow_sub₀ two_ne_zero, zpow_natCast, zpow_natCast,
      div_le_iff₀ (by positivity)]
    have hscaled := mul_lt_mul_of_pos_left hdenHigh h
    linarith
  · have hexponent : (q.num.natAbs.log2 : Int) - q.den.log2 + 1
        = ((q.num.natAbs.log2 + 1 : Nat) : Int) - (q.den.log2 : Int) := by omega
    rw [hexponent, zpow_sub₀ two_ne_zero, zpow_natCast, zpow_natCast, lt_div_iff₀ (by positivity)]
    have hscaled := mul_le_mul_of_nonneg_left hdenLow h.le
    linarith

theorem magnitude_of_nonneg {q : Rat} (h : 0 ≤ q) : magnitude q = q := by
  unfold magnitude
  rw [if_neg (not_lt.mpr h)]

/-- A positive number lies between two neighbouring powers of two: at or above the lower … -/
theorem binade_le {q : Rat} (h : 0 < q) : (2 : Rat) ^ binade q ≤ q := by
  unfold binade
  simp only [magnitude_of_nonneg h.le]
  split_ifs with hk
  · exact hk
  · exact (log2_bounds h).1

/-- … and below the upper one. -/
theorem lt_binade_succ {q : Rat} (h : 0 < q) : q < (2 : Rat) ^ (binade q + 1) := by
  unfold binade
  simp only [magnitude_of_nonneg h.le]
  split_ifs with hk
  · exact (log2_bounds h).2
  · rw [sub_add_cancel]
    exact not_le.mp hk

/-- Larger numbers lie in no lower binade. -/
theorem binade_mono {x y : Rat} (hx : 0 < x) (h : x ≤ y) : binade x ≤ binade y := by
  have hlt : (2 : Rat) ^ binade x < (2 : Rat) ^ (binade y + 1) :=
    lt_of_le_of_lt ((binade_le hx).trans h) (lt_binade_succ (lt_of_lt_of_le hx h))
  have hexponent := (zpow_lt_zpow_iff_right₀ one_lt_two).mp hlt
  omega

/-! ## §3. The distance of neighbours. -/

/-- The exponent of the distance between neighbours. -/
def lastBit (q : Rat) : Int := max (binade q) (-1022) - 52

/-- The numbers around another one are so many steps of a power of two apart. -/
theorem spacing_eq (q : Rat) : spacing q = (2 : Rat) ^ lastBit q := rfl

theorem spacing_pos (q : Rat) : 0 < spacing q := by
  rw [spacing_eq]
  exact zpow_pos two_pos _

/-- Larger numbers are no closer together. -/
theorem spacing_mono {x y : Rat} (hx : 0 < x) (h : x ≤ y) : spacing x ≤ spacing y := by
  rw [spacing_eq, spacing_eq]
  apply zpow_le_zpow_right₀ one_le_two
  have hbinade := binade_mono hx h
  unfold lastBit
  omega

/-- The multiple of the distance between neighbours that is nearest to a number. -/
def nearest (q : Rat) : Rat := (roundToEven (q / spacing q) : Rat) * spacing q

/-- The nearest number is half a step away at most. -/
theorem nearest_error (q : Rat) : |nearest q - q| ≤ spacing q / 2 := by
  have hpos := spacing_pos q
  have herror := abs_le.mp (abs_roundToEven_sub_le (q / spacing q))
  have hscale : q / spacing q * spacing q = q := div_mul_cancel₀ q hpos.ne'
  have hlow := mul_le_mul_of_nonneg_right herror.1 hpos.le
  have hhigh := mul_le_mul_of_nonneg_right herror.2 hpos.le
  rw [sub_mul, hscale] at hlow hhigh
  unfold nearest
  rw [abs_le]
  constructor <;> linarith

/-- What is on the grid bounds what is rounded to it, from above … -/
theorem nearest_le {q : Rat} {n : Int} (h : q ≤ n * spacing q) : nearest q ≤ n * spacing q := by
  have hpos := spacing_pos q
  have hround : roundToEven (q / spacing q) ≤ n := roundToEven_le ((div_le_iff₀ hpos).mpr h)
  unfold nearest
  exact mul_le_mul_of_nonneg_right (by exact_mod_cast hround) hpos.le

/-- … and from below. -/
theorem le_nearest {q : Rat} {n : Int} (h : n * spacing q ≤ q) : n * spacing q ≤ nearest q := by
  have hpos := spacing_pos q
  have hround : n ≤ roundToEven (q / spacing q) := le_roundToEven ((le_div_iff₀ hpos).mpr h)
  unfold nearest
  exact mul_le_mul_of_nonneg_right (by exact_mod_cast hround) hpos.le

/-- Every power of two above the last bit is on the grid. -/
theorem exists_mul_spacing {q : Rat} {e : Int} (he : lastBit q ≤ e) :
    ∃ n : Int, (2 : Rat) ^ e = n * spacing q := by
  obtain ⟨k, hk⟩ := Int.eq_ofNat_of_zero_le (Int.sub_nonneg_of_le he)
  refine ⟨2 ^ k, ?_⟩
  have hexponent : e = (k : Int) + lastBit q := by omega
  rw [hexponent, zpow_add₀ two_ne_zero, zpow_natCast, spacing_eq]
  push_cast
  rfl

theorem nearest_zero : nearest 0 = 0 := by
  have hle : nearest 0 ≤ 0 := by simpa using @nearest_le 0 0 (by simp)
  have hge : 0 ≤ nearest 0 := by simpa using @le_nearest 0 0 (by simp)
  exact hle.antisymm hge

theorem nearest_nonneg {q : Rat} (h : 0 ≤ q) : 0 ≤ nearest q := by
  simpa using @le_nearest q 0 (by simpa using h)

/-! ## §4. Order is kept. -/

/-- **Rounding keeps the order.** -/
theorem nearest_mono {x y : Rat} (hx : 0 ≤ x) (h : x ≤ y) : nearest x ≤ nearest y := by
  rcases hx.eq_or_lt with hzero | hpos
  · rw [← hzero, nearest_zero]
    exact nearest_nonneg (hx.trans h)
  · have hbinade := binade_mono hpos h
    by_cases hsame : lastBit x = lastBit y
    · -- both are rounded to one grid
      have hspacing : spacing x = spacing y := by rw [spacing_eq, spacing_eq, hsame]
      have hround : roundToEven (x / spacing y) ≤ roundToEven (y / spacing y) :=
        roundToEven_mono (div_le_div_of_nonneg_right h (spacing_pos y).le)
      unfold nearest
      rw [hspacing]
      exact mul_le_mul_of_nonneg_right (by exact_mod_cast hround) (spacing_pos y).le
    · -- the power of two at which the binade of the greater one begins is on both grids
      have hbits : binade x < binade y ∧ lastBit x ≤ binade y ∧ lastBit y ≤ binade y := by
        unfold lastBit at hsame ⊢
        omega
      have hxPower : x ≤ (2 : Rat) ^ binade y :=
        (lt_binade_succ hpos).le.trans (zpow_le_zpow_right₀ one_le_two (by omega))
      have hyPower : (2 : Rat) ^ binade y ≤ y := binade_le (lt_of_lt_of_le hpos h)
      obtain ⟨m, hm⟩ := exists_mul_spacing hbits.2.1
      obtain ⟨n, hn⟩ := exists_mul_spacing hbits.2.2
      calc nearest x ≤ m * spacing x := nearest_le (by rw [← hm]; exact hxPower)
        _ = n * spacing y := by rw [← hm, ← hn]
        _ ≤ nearest y := le_nearest (by rw [← hn]; exact hyPower)

/-- What a number is rounded to: the nearest one, unless that is out of range. -/
theorem round_of_nonneg {q : Rat} (h : 0 ≤ q) :
    round q = if bound ≤ nearest q then .infinite false else .finite (nearest q) := by
  unfold round
  by_cases hzero : q = 0
  · subst hzero
    have hbound : ¬ bound ≤ 0 := by
      unfold bound
      exact not_le.mpr (zpow_pos two_pos _)
    rw [if_pos rfl, nearest_zero, if_neg hbound]
  · rw [if_neg hzero]
    show (if bound ≤ magnitude (nearest q) then _ else Binary64.finite (nearest q)) = _
    rw [magnitude_of_nonneg (nearest_nonneg h), decide_eq_false (not_lt.mpr h)]

/-- **Of two numbers the greater one is never rounded to less.** -/
theorem round_le_round {x y : Rat} (hx : 0 ≤ x) (h : x ≤ y) : (round x).le (round y) = true := by
  have hnearest := nearest_mono hx h
  rw [round_of_nonneg hx, round_of_nonneg (hx.trans h)]
  by_cases hy : bound ≤ nearest y
  · rw [if_pos hy]
    split_ifs
    · rfl
    · rfl
  · have hxBound : ¬ bound ≤ nearest x := fun hbound => hy (hbound.trans hnearest)
    rw [if_neg hy, if_neg hxBound]
    simpa only [le, decide_eq_true_eq] using hnearest

/-! ## §5. Distance may be lost. -/

/-- Two numbers are told apart if they are further apart than the neighbours of the greater one. -/
theorem nearest_lt_nearest {x y : Rat} (hx : 0 ≤ x) (h : x + spacing y < y) :
    nearest x < nearest y := by
  have hpos := spacing_pos y
  have hxError := abs_le.mp (nearest_error x)
  have hyError := abs_le.mp (nearest_error y)
  rcases hx.eq_or_lt with hzero | hxPos
  · rw [← hzero, nearest_zero]
    linarith
  · have hspacing := spacing_mono hxPos (by linarith : x ≤ y)
    linarith

/-- The distance of neighbours at a number below `2 ^ 52` units is less than a unit, if the unit
is no smaller than the smallest distance. -/
theorem spacing_lt {q unit : Rat} (hq : 0 < q) (hunit : (2 : Rat) ^ (-1074 : Int) < unit)
    (h : q < unit * 2 ^ 52) : spacing q < unit := by
  rw [spacing_eq]
  unfold lastBit
  rcases Int.le_total (binade q) (-1022) with hsmall | hlarge
  · rw [max_eq_right hsmall]
    exact hunit
  · rw [max_eq_left hlarge, zpow_sub₀ two_ne_zero, div_lt_iff₀ (by positivity)]
    have hle := binade_le hq
    calc (2 : Rat) ^ binade q ≤ q := hle
      _ < unit * 2 ^ 52 := h
      _ = unit * (2 : Rat) ^ (52 : Int) := by norm_num

/-- The smallest distance between neighbours has more places than this. -/
def mostPlaces : Nat := 323

/-- So many decimal places are still coarser than the finest numbers there are. -/
theorem smallest_lt {k : Nat} (hk : k ≤ mostPlaces) :
    (2 : Rat) ^ (-1074 : Int) < 1 / 10 ^ k := by
  have hmost : 10 ^ mostPlaces < 2 ^ 1074 := by decide +kernel
  have hpower : 10 ^ k < 2 ^ 1074 :=
    lt_of_le_of_lt (Nat.pow_le_pow_right (by decide) hk) hmost
  rw [zpow_neg, ← one_div]
  apply one_div_lt_one_div_of_lt (by positivity)
  exact_mod_cast hpower

/-- **Different numbers of fewer than `2 ^ 52` units of the last of `k` places are told apart.** -/
theorem round_ne_round {k m n : Nat} (hk : k ≤ mostPlaces) (hmn : m < n) (hn : n < 2 ^ 52) :
    round ((m : Rat) / 10 ^ k) ≠ round ((n : Rat) / 10 ^ k) := by
  have hunit : (0 : Rat) < 1 / 10 ^ k := by positivity
  have hunitLe : (1 : Rat) / 10 ^ k ≤ 1 := by
    rw [div_le_one (by positivity)]
    exact one_le_pow₀ (by norm_num)
  have hx : (0 : Rat) ≤ m / 10 ^ k := by positivity
  have hy : (0 : Rat) < n / 10 ^ k :=
    div_pos (by exact_mod_cast Nat.zero_lt_of_lt hmn) (by positivity)
  have hstep : (m : Rat) / 10 ^ k + 1 / 10 ^ k ≤ n / 10 ^ k := by
    rw [← add_div]
    exact div_le_div_of_nonneg_right (by exact_mod_cast hmn) (by positivity)
  have hfew : (n : Rat) / 10 ^ k < 1 / 10 ^ k * 2 ^ 52 := by
    rw [one_div_mul_eq_div]
    exact div_lt_div_of_pos_right (by exact_mod_cast hn) (by positivity)
  -- a unit is more than the distance of neighbours, so the two are at least that far apart
  have hspacing := spacing_lt hy (smallest_lt hk) hfew
  have hless := nearest_lt_nearest hx (lt_of_lt_of_le (by linarith) hstep)
  -- none of the two is as large as the infinity
  have hfinite : ¬ bound ≤ nearest ((n : Rat) / 10 ^ k) := by
    have herror := (abs_le.mp (nearest_error ((n : Rat) / 10 ^ k))).2
    have hbound : (2 : Rat) ^ (53 : Int) ≤ bound := zpow_le_zpow_right₀ one_le_two (by decide)
    have hvalue : (2 : Rat) ^ (53 : Int) = 2 ^ 52 * 2 := by norm_num
    have hscaled : 1 / 10 ^ k * (2 : Rat) ^ 52 ≤ 1 * 2 ^ 52 :=
      mul_le_mul_of_nonneg_right hunitLe (by norm_num)
    have hlarge : (1 : Rat) ≤ 2 ^ 52 := by norm_num
    rw [not_le]
    linarith
  rw [round_of_nonneg hx, round_of_nonneg hy.le, if_neg hfinite,
    if_neg fun hbound => hfinite (hbound.trans hless.le)]
  intro heq
  injection heq with heq
  exact hless.ne heq

end Binary64

end SlabWaste
