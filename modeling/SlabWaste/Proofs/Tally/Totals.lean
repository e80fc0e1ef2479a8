/-
  SlabWaste.Proofs.Tally.Totals
  ─────────────────────────────
  **THE CALLERS ADD UP TO THE RUN.**

  A run counts its allocations and releases in two places: for itself, and for
  the caller of each.  Nothing in a run compares the two.  They agree all the
  same, but for the unknown releases, which no caller is credited with:

      sum_updateCaller      one caller changes a sum by what is added to its part
      Balanced.apply        one event keeps the counts in agreement
      balanced_after        … and so does whatever a session is asked
-/
import SlabWaste.Proofs.Tally.Requests

namespace SlabWaste

/-! ## §1. Sums over callers. -/

/-- What a change adds to the part of one caller it adds to the sum of all parts; a caller who
joins had no part before. -/
theorem sum_updateCaller {part : Usage → Int} (hzero : part {} = 0) {change : Usage → Usage}
    {k : Int} (hchange : ∀ u, part (change u) = part u + k) (name : String) (cs : List Caller) :
    ((updateCaller name change cs).map (part ·.usage)).sum = (cs.map (part ·.usage)).sum + k := by
  induction cs with
  | nil =>
      show part (change {}) + 0 = 0 + k
      rw [hchange, hzero]
      omega
  | cons c cs ih =>
      by_cases hc : c.name = name
      · rw [updateCaller, if_pos hc, List.map_cons, List.map_cons, List.sum_cons, List.sum_cons]
        show part (change c.usage) + _ = _
        rw [hchange]
        omega
      · rw [updateCaller, if_neg hc, List.map_cons, List.map_cons, List.sum_cons, List.sum_cons, ih]
        omega

/-- The sum of a figure over all callers. -/
def CallerTable.sum (t : CallerTable) (part : Usage → Int) : Int := (t.rows.map (part ·.usage)).sum

namespace CallerTable

variable (t : CallerTable) (part : Usage → Int) (change : Usage → Usage)

/-- An update that adds to the figures of one caller adds as much to the sum, … -/
theorem sum_update (hzero : part {} = 0) {k : Int} (hchange : ∀ u, part (change u) = part u + k)
    (name : String) : (t.update name change).sum part = t.sum part + k :=
  sum_updateCaller hzero hchange name t.rows

/-- … and one that adds nothing leaves the sum as it is. -/
theorem sum_update_of_eq (hzero : part {} = 0) (hchange : ∀ u, part (change u) = part u)
    (name : String) : (t.update name change).sum part = t.sum part := by
  have hsum := t.sum_update part change hzero (k := 0) (fun u => by rw [hchange, Int.add_zero]) name
  rw [hsum, Int.add_zero]

end CallerTable

/-! ## §2. The two counts. -/

namespace Tally

/-- The counts of the run are those of its callers together, and the unknown releases. -/
structure Balanced (t : Tally) : Prop where
  allocations : (t.allocations : Int) = t.callers.sum (·.allocations)
  releases : (t.releases : Int) = t.callers.sum (·.releases) + t.unknown

/-- To begin with, both sides are zero. -/
theorem balanced_start : ({} : Tally).Balanced := ⟨rfl, rfl⟩

/-- An allocation counts for its caller, a release for the caller of what it finds. -/
theorem Balanced.apply {t : Tally} (h : t.Balanced) (m : Movement) : (t.apply m).Balanced := by
  have hallocations := h.allocations
  have hreleases := h.releases
  -- each movement counts once for the tally and once in one row, or as unknown
  cases m with
  | allocate address caller bytes =>
      have hmade : (t.callers.update caller (·.allocate bytes)).sum (·.allocations)
          = t.callers.sum (·.allocations) + 1 :=
        t.callers.sum_update (·.allocations) (·.allocate bytes) rfl (fun u => rfl) caller
      have hkept : (t.callers.update caller (·.allocate bytes)).sum (·.releases)
          = t.callers.sum (·.releases) :=
        t.callers.sum_update_of_eq (·.releases) (·.allocate bytes) rfl (fun u => rfl) caller
      rw [apply_allocate]
      constructor
      · dsimp only
        omega
      · dsimp only
        omega
  | release address =>
      cases hfound : t.heap.get? address with
      | none =>
          rw [apply_release_none hfound]
          constructor
          · exact hallocations
          · dsimp only
            omega
      | some a =>
          have hkept : (t.callers.update a.caller (·.release a.bytes)).sum (·.allocations)
              = t.callers.sum (·.allocations) :=
            t.callers.sum_update_of_eq (·.allocations) (·.release a.bytes) rfl (fun u => rfl) a.caller
          have hreturned : (t.callers.update a.caller (·.release a.bytes)).sum (·.releases)
              = t.callers.sum (·.releases) + 1 :=
            t.callers.sum_update (·.releases) (·.release a.bytes) rfl (fun u => rfl) a.caller
          rw [apply_release_some hfound]
          constructor
          · dsimp only
            omega
          · dsimp only
            omega

/-- **The sums over callers are the counts of the tally**, after any movements, … -/
theorem balanced_ofMovements (ms : List Movement) : (ofMovements ms).Balanced := by
  induction ms using List.reverseRecOn with
  | nil => exact balanced_start
  | append_singleton ms m ih =>
      rw [ofMovements_append_singleton]
      exact ih.apply m

end Tally

/-! ## §3. Whatever a session is asked. -/

namespace Session

variable {family : Family} {resolver : Option Symbols.Resolver}

/-- … and after any requests. -/
theorem balanced_after (h : ({ family, resolver } : Session).Sound) (qs : List Request) :
    (({ family, resolver } : Session).after qs).tally.Balanced := by
  have hcore : (({ family, resolver } : Session).after qs).tally.core.Balanced := by
    rw [core_after h qs]
    exact Tally.balanced_ofMovements _
  exact ⟨hcore.allocations, hcore.releases⟩

/-- The callers that have an entry are those who were granted memory since the last reset. -/
theorem contains_after (h : ({ family, resolver } : Session).Sound) (qs : List Request)
    (f : String) :
    (({ family, resolver } : Session).after qs).tally.callers.contains f
      = (({ family, resolver } : Session).movements qs).any (Movement.grantsTo f) := by
  rw [← Tally.contains_ofMovements, ← core_after h qs]
  rfl

end Session

end SlabWaste
