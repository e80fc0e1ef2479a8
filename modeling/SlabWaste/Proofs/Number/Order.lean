/-
  SlabWaste.Proofs.Number.Order
  ─────────────────────────────
  **TIMES ARE IN ORDER.**

  `Binary64.le` puts the extended line in order, with `nan` on top: the order is
  total, transitive and antisymmetric on all values, so a merge by time needs no
  promise about the times it meets.
-/
import SlabWaste.Number.Binary64

namespace SlabWaste.Binary64

theorem le_total (x y : Binary64) : x.le y = true ∨ y.le x = true := by
  cases x with
  | nan => cases y <;> simp [le]
  | infinite s =>
      cases y with
      | nan => simp [le]
      | infinite t => cases s <;> cases t <;> simp [le]
      | finite v => cases s <;> simp [le]
  | finite u =>
      cases y with
      | nan => simp [le]
      | infinite t => cases t <;> simp [le]
      | finite v =>
          simp only [le, decide_eq_true_eq]
          exact Rat.le_total

theorem le_refl (x : Binary64) : x.le x = true := by
  rcases le_total x x with h | h
  · exact h
  · exact h

/-- Different numbers never come at the same place. -/
theorem le_antisymm {x y : Binary64} (hxy : x.le y = true) (hyx : y.le x = true) : x = y := by
  cases x with
  | nan => cases y <;> simp_all [le]
  | infinite s =>
      cases y with
      | nan => simp [le] at hyx
      | infinite t => cases s <;> cases t <;> simp_all [le]
      | finite v => cases s <;> simp_all [le]
  | finite u =>
      cases y with
      | nan => simp [le] at hyx
      | infinite t => cases t <;> simp_all [le]
      | finite v =>
          simp only [le, decide_eq_true_eq] at hxy hyx
          rw [Rat.le_antisymm hxy hyx]

/-- Nothing but `nan` is above `nan`. -/
theorem eq_nan_of_nan_le {y : Binary64} (h : Binary64.nan.le y = true) : y = .nan := by
  cases y with
  | nan => rfl
  | infinite t => simp [le] at h
  | finite v => simp [le] at h

/-- Nothing but the upper infinity and `nan` is above the upper infinity. -/
theorem infinite_le {y : Binary64} (h : (Binary64.infinite false).le y = true) :
    y = .infinite false ∨ y = .nan := by
  cases y with
  | nan => exact Or.inr rfl
  | infinite t => cases t <;> simp_all [le]
  | finite v => simp [le] at h

theorem le_trans {x y z : Binary64} (hxy : x.le y = true) (hyz : y.le z = true) :
    x.le z = true := by
  -- only itself is above what is no number, and the finite ones lie between the infinities
  cases x with
  | nan =>
      rw [eq_nan_of_nan_le hxy] at hyz
      exact hyz
  | infinite s =>
      cases s with
      | true => cases z <;> simp [le]
      | false =>
          rcases infinite_le hxy with hy | hy
          · rw [hy] at hyz
            exact hyz
          · rw [hy] at hyz
            rw [eq_nan_of_nan_le hyz]
            rfl
  | finite u =>
      cases y with
      | nan =>
          rw [eq_nan_of_nan_le hyz]
          rfl
      | infinite t =>
          cases t with
          | true => simp [le] at hxy
          | false =>
              rcases infinite_le hyz with hz | hz
              · rw [hz]
                rfl
              · rw [hz]
                rfl
      | finite v =>
          cases z with
          | nan => rfl
          | infinite r => cases r <;> simp_all [le]
          | finite w =>
              simp only [le, decide_eq_true_eq] at hxy hyz ⊢
              exact Rat.le_trans hxy hyz

end SlabWaste.Binary64
