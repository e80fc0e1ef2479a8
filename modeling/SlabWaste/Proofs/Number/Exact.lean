/-
  SlabWaste.Proofs.Number.Exact
  ─────────────────────────────
  **WHAT ROUNDING KEEPS.**

  A number that is no more than half the first one too large stays finite, one
  from 1 on stays positive, and an integer of 53 bits over a power of two stays as
  it is:

      roundFinite?_of_le      finite
      ofInt?_of_pos           … and not zero
      round_div_two_pow       unchanged
-/
import SlabWaste.Proofs.Number.Rounding

namespace SlabWaste.Binary64

variable {q : Rat}

/-! ## §1. Finite numbers. -/

/-- What is in range is rounded to a finite number. -/
theorem round_eq_finite (h : 0 ≤ q) (hbound : nearest q < bound) : round q = .finite (nearest q) := by
  rw [round_of_nonneg h, if_neg (not_le.mpr hbound)]

/-- Rounding does not lead beyond a power of two. -/
theorem nearest_le_two_pow {e : Int} (h : 0 < q) (he : -1074 ≤ e) (hq : q ≤ (2 : Rat) ^ e) :
    nearest q ≤ (2 : Rat) ^ e := by
  have hbinade : binade q ≤ e :=
    (zpow_le_zpow_iff_right₀ one_lt_two).mp ((binade_le h).trans hq)
  have hbit : lastBit q ≤ e := by
    unfold lastBit
    omega
  obtain ⟨n, hn⟩ := exists_mul_spacing hbit
  rw [hn] at hq ⊢
  exact nearest_le hq

/-- **Up to half the first number that is too large, rounding gives a finite number.** -/
theorem roundFinite?_of_le (h : 0 ≤ q) (hq : q ≤ (2 : Rat) ^ (1023 : Int)) :
    roundFinite? q = some (.finite (nearest q)) := by
  have hnearest : nearest q ≤ (2 : Rat) ^ (1023 : Int) := by
    rcases h.eq_or_lt with hzero | hpos
    · rw [← hzero, nearest_zero]
      exact (zpow_pos two_pos _).le
    · exact nearest_le_two_pow hpos (by decide) hq
  have hbound : nearest q < bound :=
    hnearest.trans_lt (zpow_lt_zpow_right₀ one_lt_two (by decide))
  unfold roundFinite?
  rw [round_eq_finite h hbound]

/-- The power of two at which the binade begins is no more than the rounded number. -/
theorem nearest_pos (h : 1 ≤ q) : 0 < nearest q := by
  have hpos : 0 < q := one_pos.trans_le h
  have hbinade : 0 < binade q + 1 := by
    apply (zpow_lt_zpow_iff_right₀ (one_lt_two (α := Rat))).mp
    rw [zpow_zero]
    exact h.trans_lt (lt_binade_succ hpos)
  have hbit : lastBit q ≤ binade q := by
    unfold lastBit
    omega
  obtain ⟨n, hn⟩ := exists_mul_spacing hbit
  have hle := binade_le hpos
  rw [hn] at hle
  calc (0 : Rat) < (2 : Rat) ^ binade q := zpow_pos two_pos _
    _ = n * spacing q := hn
    _ ≤ nearest q := le_nearest hle

/-- Integers of up to 1023 bits have a floating-point number next to them. -/
theorem ofInt?_of_nonneg {n : Int} {k : Nat} (hk : k ≤ 1023) (h : 0 ≤ n) (hn : n ≤ 2 ^ k) :
    ofInt? n = some (.finite (nearest n)) := by
  apply roundFinite?_of_le
  · exact_mod_cast h
  · have hpower : (n : Rat) ≤ (2 : Rat) ^ (k : Int) := by
      rw [zpow_natCast]
      exact_mod_cast hn
    exact hpower.trans (zpow_le_zpow_right₀ one_le_two (by omega))

/-- … which is not zero, if the integer is positive. -/
theorem ofInt?_of_pos {n : Int} {k : Nat} (hk : k ≤ 1023) (h : 0 < n) (hn : n ≤ 2 ^ k) :
    ∃ x, ofInt? n = some x ∧ x ≠ .finite 0 := by
  refine ⟨_, ofInt?_of_nonneg hk h.le hn, ?_⟩
  intro heq
  injection heq with heq
  have hpos : 0 < nearest n := nearest_pos (by exact_mod_cast h)
  exact hpos.ne' heq

/-! ## §2. Exact numbers. -/

/-- What is on the grid is not rounded. -/
theorem nearest_of_mul_spacing {n : Int} (h : q = n * spacing q) : nearest q = q :=
  ((nearest_le h.le).trans h.ge).antisymm (h.le.trans (le_nearest h.ge))

/-- A number below a power of two is in a lower binade. -/
theorem binade_lt {e : Int} (h : 0 < q) (hq : q < (2 : Rat) ^ e) : binade q < e :=
  (zpow_lt_zpow_iff_right₀ one_lt_two).mp ((binade_le h).trans_lt hq)

/-- **An integer of 53 bits over a power of two is not rounded.** -/
theorem round_div_two_pow {n k : Nat} (hn : n < 2 ^ 53) (hk : k ≤ 1074) :
    round ((n : Rat) / 2 ^ k) = .finite ((n : Rat) / 2 ^ k) := by
  rcases Nat.eq_zero_or_pos n with rfl | hpos
  · rw [Nat.cast_zero, zero_div]
    rfl
  have hq : (0 : Rat) < (n : Rat) / 2 ^ k := div_pos (by exact_mod_cast hpos) (by positivity)
  have hscaled : (n : Rat) / 2 ^ k = n * (2 : Rat) ^ (-(k : Int)) := by
    rw [zpow_neg, zpow_natCast, div_eq_mul_inv]
  have hfew : (n : Rat) < (2 : Rat) ^ (53 : Int) := by
    rw [show (53 : Int) = ((53 : Nat) : Int) from rfl, zpow_natCast]
    exact_mod_cast hn
  have hlt : (n : Rat) / 2 ^ k < (2 : Rat) ^ (53 - (k : Int)) := by
    rw [hscaled, sub_eq_add_neg, zpow_add₀ two_ne_zero]
    exact mul_lt_mul_of_pos_right hfew (zpow_pos two_pos _)
  have hbinade := binade_lt hq hlt
  -- the last place of the quotient is no finer than the neighbours there are apart
  have hbit : lastBit ((n : Rat) / 2 ^ k) ≤ -(k : Int) := by
    unfold lastBit
    omega
  obtain ⟨m, hm⟩ := exists_mul_spacing hbit
  have hgrid : (n : Rat) / 2 ^ k = ((n * m : Int) : Rat) * spacing ((n : Rat) / 2 ^ k) := by
    push_cast
    rw [mul_assoc, ← hm, ← hscaled]
  have hexact := nearest_of_mul_spacing hgrid
  have hbound : nearest ((n : Rat) / 2 ^ k) < bound := by
    rw [hexact]
    exact hlt.trans_le (zpow_le_zpow_right₀ one_le_two (by omega))
  rw [round_eq_finite hq.le hbound, hexact]

end SlabWaste.Binary64
