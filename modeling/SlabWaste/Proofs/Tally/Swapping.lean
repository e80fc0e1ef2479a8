/-
  SlabWaste.Proofs.Tally.Swapping
  ───────────────────────────────
  **EVENTS AT DIFFERENT ADDRESSES MAY BE SWAPPED, UP TO PEAKS.**

  A movement reads and changes the heap at its own address only.  So of two
  movements at different addresses each finds what it finds, whichever comes first,
  and what they do to the figures of a caller adds up in either order, but for the
  peaks:

      chargedTo, change       whose figures a movement changes, and how
      SameButPeaks            tallies that differ in peaks at most
      sameButPeaks_swap       two movements, either way
      usage_swap              peaks differ only for a caller that both are charged to

  A report ranks callers by their waste, which peaks have no part in:

      SameButPeaks.ranked     the same callers in the same order

  Main results: `Tally.sameButPeaks_swap`, `Tally.usage_swap` and
  `Tally.SameButPeaks.ranked`, for every tally.
-/
import SlabWaste.Proofs.Report.Sheet
import SlabWaste.Proofs.Tally.Requests

namespace SlabWaste

open SlabWaste.Symbols

/-! ## §1. Figures without peaks. -/

namespace Usage

/-- The figures without the peaks. -/
def withoutPeak (u : Usage) : Usage := { u with peak := {} }

/-- The figures with something added to them. -/
def shift (u : Usage) (total current : Bytes) (allocations releases : Int) : Usage :=
  { u with
    total := u.total + total
    current := u.current + current
    allocations := u.allocations + allocations
    releases := u.releases + releases }

/-- But for peaks, an allocation adds to the figures, … -/
theorem withoutPeak_allocate (u : Usage) (b : Bytes) :
    (u.allocate b).withoutPeak = u.withoutPeak.shift b b 1 0 := by
  unfold withoutPeak shift allocate
  simp

/-- … and a release adds to them as well: one return, and less of what is held. -/
theorem withoutPeak_release (u : Usage) (b : Bytes) :
    (u.release b).withoutPeak = u.withoutPeak.shift 0 (-b) 0 1 := by
  unfold withoutPeak shift release
  simp [sub_eq_add_neg]

theorem shift_zero (u : Usage) : u.shift 0 0 0 0 = u := by
  unfold shift
  simp

/-- It does not matter which of two is added first. -/
theorem shift_comm (u : Usage) (total current total' current' : Bytes)
    (allocations releases allocations' releases' : Int) :
    (u.shift total current allocations releases).shift total' current' allocations' releases'
      = (u.shift total' current' allocations' releases').shift total current allocations
          releases := by
  unfold shift
  simp only [add_right_comm]

end Usage

/-! ## §2. What a movement does. -/

namespace Tally

/-- The caller that a movement is charged or credited to; a release that finds nothing has none. -/
def chargedTo (t : Tally) : Movement → Option String
  | .allocate _ caller _ => some caller
  | .release address => (t.heap.get? address).map (·.caller)

/-- What a movement does to the figures of that caller. -/
def change (t : Tally) (u : Usage) : Movement → Usage
  | .allocate _ _ bytes => u.allocate bytes
  | .release address =>
      match t.heap.get? address with
      | none => u
      | some a => u.release a.bytes

section releases

variable {t : Tally} {address : Int}

/-- A release that finds nothing is credited to nobody, … -/
theorem chargedTo_release_none (h : t.heap.get? address = none) :
    t.chargedTo (.release address) = none := by
  unfold chargedTo
  simp only [h, Option.map_none]

/-- … and one that finds something to its owner. -/
theorem chargedTo_release_some {a : Allocation} (h : t.heap.get? address = some a) :
    t.chargedTo (.release address) = some a.caller := by
  unfold chargedTo
  simp only [h, Option.map_some]

theorem change_release_none (h : t.heap.get? address = none) (u : Usage) :
    t.change u (.release address) = u := by
  unfold change
  simp only [h]

theorem change_release_some {a : Allocation} (h : t.heap.get? address = some a) (u : Usage) :
    t.change u (.release address) = u.release a.bytes := by
  unfold change
  simp only [h]

end releases

/-- But for peaks, a movement adds to the figures what does not depend on them. -/
theorem withoutPeak_change (t : Tally) (m : Movement) :
    ∃ total current allocations releases, ∀ u,
      (t.change u m).withoutPeak = u.withoutPeak.shift total current allocations releases := by
  cases m with
  | allocate address caller bytes => exact ⟨_, _, _, _, fun u => u.withoutPeak_allocate bytes⟩
  | release address =>
      cases hfound : t.heap.get? address with
      | none =>
          refine ⟨0, 0, 0, 0, fun u => ?_⟩
          rw [change_release_none hfound, Usage.shift_zero]
      | some a =>
          refine ⟨0, -a.bytes, 0, 1, fun u => ?_⟩
          rw [change_release_some hfound, Usage.withoutPeak_release]

/-- **A movement changes the heap at its own address only**, and there to what it leaves behind. -/
theorem heap_apply (t : Tally) (m : Movement) (x : Int) :
    (t.apply m).heap.get? x = if m.address = x then m.allocation? else t.heap.get? x := by
  cases m with
  | allocate address caller bytes => exact t.heap.get?_insert _ x
  | release address =>
      show (t.apply (.release address)).heap.get? x = if address = x then none else t.heap.get? x
      cases hfound : t.heap.get? address with
      | none =>
          -- nothing was there, and nothing is
          rw [apply_release_none hfound]
          by_cases hx : address = x
          · rw [if_pos hx, ← hx]
            exact hfound
          · rw [if_neg hx]
      | some a =>
          rw [apply_release_some hfound]
          exact t.heap.get?_erase address x

/-- The caller that is charged or credited is updated, if there is one. -/
theorem callers_apply (t : Tally) (m : Movement) :
    (t.apply m).callers
      = match t.chargedTo m with
        | none => t.callers
        | some f => t.callers.update f (t.change · m) := by
  cases m with
  | allocate address caller bytes => rfl
  | release address =>
      cases hfound : t.heap.get? address with
      | none => rw [apply_release_none hfound, chargedTo_release_none hfound]
      | some a =>
          rw [apply_release_some hfound, chargedTo_release_some hfound]
          simp only [change_release_some hfound]

/-- No other caller's figures change, … -/
theorem usage_apply (t : Tally) (m : Movement) (f : String) :
    (t.apply m).usage f
      = if t.chargedTo m = some f then t.change (t.usage f) m else t.usage f := by
  unfold usage
  rw [callers_apply]
  cases t.chargedTo m with
  | none => rfl
  | some g =>
      simp only [Option.some.injEq]
      rw [usageOf_update]
      by_cases hgf : g = f
      · rw [if_pos hgf, if_pos hgf, hgf]
      · rw [if_neg hgf, if_neg hgf]

/-- … and no other caller comes up. -/
theorem contains_apply (t : Tally) (m : Movement) (f : String) :
    (t.apply m).callers.contains f = (t.chargedTo m == some f || t.callers.contains f) := by
  rw [callers_apply]
  cases t.chargedTo m with
  | none => rfl
  | some g => exact contains_update t.callers g _ f

/-- The tally without its heap and its callers: all that is counted. -/
def counts (t : Tally) : Tally := { t with heap := {}, callers := .empty }

/-- Count one more allocation or release, and whether it is unknown. -/
def tick (t : Tally) (release unknown : Bool) : Tally :=
  { t with
    allocations := t.allocations + (if release then 0 else 1)
    releases := t.releases + (if release then 1 else 0)
    unknown := t.unknown + (if unknown then 1 else 0) }

theorem tick_comm (t : Tally) (release unknown release' unknown' : Bool) :
    (t.tick release unknown).tick release' unknown'
      = (t.tick release' unknown').tick release unknown := by
  unfold tick
  simp only [Nat.add_right_comm]

/-- What a movement adds to the counts depends on its kind, and on whether it finds anything. -/
theorem counts_apply (t : Tally) (m : Movement) :
    (t.apply m).counts = t.counts.tick m.isRelease (t.chargedTo m).isNone := by
  cases m with
  | allocate address caller bytes => rfl
  | release address =>
      cases hfound : t.heap.get? address with
      | none =>
          rw [apply_release_none hfound, chargedTo_release_none hfound]
          rfl
      | some a =>
          rw [apply_release_some hfound, chargedTo_release_some hfound]
          rfl

/-! ## §3. Two movements. -/

variable {t u v : Tally} {m₁ m₂ : Movement}

/-- What a movement finds depends on the heap at its address only. -/
theorem chargedTo_of_heap {m : Movement}
    (h : t.heap.get? m.address = u.heap.get? m.address) : t.chargedTo m = u.chargedTo m := by
  cases m with
  | allocate address caller bytes => rfl
  | release address => exact congrArg (Option.map (·.caller)) h

/-- So does what it changes. -/
theorem change_of_heap {m : Movement} (h : t.heap.get? m.address = u.heap.get? m.address)
    (x : Usage) : t.change x m = u.change x m := by
  cases m with
  | allocate address caller bytes => rfl
  | release address =>
      have h : t.heap.get? address = u.heap.get? address := h
      unfold change
      simp only [h]

/-- A movement changes the heap at its address only. -/
theorem heap_apply_of_ne (h : m₁.address ≠ m₂.address) :
    (t.apply m₁).heap.get? m₂.address = t.heap.get? m₂.address := by
  rw [heap_apply, if_neg h]

/-- Each of two movements leaves at its own address what it leaves there. -/
theorem heap_swap (h : m₁.address ≠ m₂.address) :
    ((t.apply m₁).apply m₂).heap = ((t.apply m₂).apply m₁).heap := by
  apply Heap.ext_get?
  intro x
  rw [heap_apply, heap_apply, heap_apply, heap_apply]
  by_cases hx : m₂.address = x
  · rw [if_pos hx, if_neg (hx ▸ h), if_pos hx]
  · rw [if_neg hx, if_neg hx]

/-- The figures of a caller after two movements, of which the second finds what it found before the
first. -/
theorem usage_apply_apply (h : m₁.address ≠ m₂.address) (f : String) :
    ((t.apply m₁).apply m₂).usage f
      = if t.chargedTo m₂ = some f then t.change ((t.apply m₁).usage f) m₂
        else (t.apply m₁).usage f := by
  rw [usage_apply, chargedTo_of_heap (heap_apply_of_ne h), change_of_heap (heap_apply_of_ne h)]

/-- **The order matters only for a caller that both are charged or credited to.** -/
theorem usage_swap (h : m₁.address ≠ m₂.address) {f : String}
    (hf : ¬ (t.chargedTo m₁ = some f ∧ t.chargedTo m₂ = some f)) :
    ((t.apply m₁).apply m₂).usage f = ((t.apply m₂).apply m₁).usage f := by
  rw [usage_apply_apply h, usage_apply_apply h.symm, usage_apply, usage_apply]
  by_cases hfirst : t.chargedTo m₁ = some f
  · have hsecond : ¬ t.chargedTo m₂ = some f := fun hsecond => hf ⟨hfirst, hsecond⟩
    rw [if_pos hfirst, if_neg hsecond, if_pos hfirst, if_neg hsecond]
  · rw [if_neg hfirst, if_neg hfirst]

/-- Even for such a caller it matters for the peaks only. -/
theorem withoutPeak_swap (h : m₁.address ≠ m₂.address) (f : String) :
    (((t.apply m₁).apply m₂).usage f).withoutPeak
      = (((t.apply m₂).apply m₁).usage f).withoutPeak := by
  by_cases hf : t.chargedTo m₁ = some f ∧ t.chargedTo m₂ = some f
  · -- both add to the same figures, in either order
    obtain ⟨_, _, _, _, hfirst⟩ := t.withoutPeak_change m₁
    obtain ⟨_, _, _, _, hsecond⟩ := t.withoutPeak_change m₂
    rw [usage_apply_apply h, usage_apply_apply h.symm, usage_apply, usage_apply]
    rw [if_pos hf.1, if_pos hf.2, if_pos hf.1, if_pos hf.2]
    rw [hsecond, hfirst, hfirst, hsecond, Usage.shift_comm]
  · rw [usage_swap h hf]

/-- Tallies that are the same but for the peaks of callers, and for the order in which callers came
up. -/
structure SameButPeaks (t u : Tally) : Prop where
  heap : t.heap = u.heap
  contains : ∀ f, t.callers.contains f = u.callers.contains f
  usage : ∀ f, (t.usage f).withoutPeak = (u.usage f).withoutPeak
  counts : t.counts = u.counts

/-- **Two movements at different addresses**, in either order, lead to the same tally but for
peaks. -/
theorem sameButPeaks_swap (t : Tally) (h : m₁.address ≠ m₂.address) :
    ((t.apply m₁).apply m₂).SameButPeaks ((t.apply m₂).apply m₁) := by
  have hcharged₁ : (t.apply m₂).chargedTo m₁ = t.chargedTo m₁ :=
    chargedTo_of_heap (heap_apply_of_ne h.symm)
  have hcharged₂ : (t.apply m₁).chargedTo m₂ = t.chargedTo m₂ :=
    chargedTo_of_heap (heap_apply_of_ne h)
  refine ⟨heap_swap h, fun f => ?_, withoutPeak_swap h, ?_⟩
  · rw [contains_apply, contains_apply, contains_apply, contains_apply, hcharged₁, hcharged₂,
      Bool.or_left_comm]
  · rw [counts_apply, counts_apply, counts_apply, counts_apply, hcharged₁, hcharged₂, tick_comm]

namespace SameButPeaks

theorem refl (t : Tally) : t.SameButPeaks t := ⟨rfl, fun _ => rfl, fun _ => rfl, rfl⟩

theorem trans (h : t.SameButPeaks u) (k : u.SameButPeaks v) : t.SameButPeaks v where
  heap := h.heap.trans k.heap
  contains f := (h.contains f).trans (k.contains f)
  usage f := (h.usage f).trans (k.usage f)
  counts := h.counts.trans k.counts

/-- A movement has the same effect on both, whatever their peaks are. -/
theorem apply (h : t.SameButPeaks u) (m : Movement) : (t.apply m).SameButPeaks (u.apply m) := by
  have hheap : t.heap.get? m.address = u.heap.get? m.address := by rw [h.heap]
  have hcharged : t.chargedTo m = u.chargedTo m := chargedTo_of_heap hheap
  refine ⟨Heap.ext_get? fun x => ?_, fun f => ?_, fun f => ?_, ?_⟩
  · rw [heap_apply, heap_apply, h.heap]
  · rw [contains_apply, contains_apply, hcharged, h.contains]
  · rw [usage_apply, usage_apply, hcharged]
    split
    · -- what is added does not depend on the figures, nor on which of the tallies it is
      obtain ⟨_, _, _, _, hchange⟩ := u.withoutPeak_change m
      rw [change_of_heap hheap, hchange, hchange, h.usage]
    · exact h.usage f
  · rw [counts_apply, counts_apply, hcharged, h.counts]

/-- So have any number of movements. -/
theorem foldl_apply (h : t.SameButPeaks u) (ms : List Movement) :
    (ms.foldl Tally.apply t).SameButPeaks (ms.foldl Tally.apply u) := by
  induction ms generalizing t u with
  | nil => exact h
  | cons m ms ih => exact ih (h.apply m)

end SameButPeaks

end Tally

/-! ## §4. The ranking. -/

/-- A caller with the figures that peaks have no part in. -/
def Caller.steady (c : Caller) : Caller :=
  { c with usage := { c.usage with peak := {}, peakWaste := 0 } }

namespace Report

/-- Peaks have no part in the order of callers. -/
theorem map_steady_sort (cs : List Caller) :
    (sort cs).map Caller.steady = sort (cs.map Caller.steady) :=
  List.map_mergeSort fun _ _ _ _ => rfl

end Report

namespace Tally

variable {t u : Tally}

/-- The callers of a tally, settled and without their peaks. -/
def steadyRows (t : Tally) : List Caller := (t.callers.rows.map Caller.settle).map Caller.steady

theorem names_steadyRows (t : Tally) :
    t.steadyRows.map (·.name) = t.callers.rows.map (·.name) := by
  unfold steadyRows
  rw [List.map_map, List.map_map]
  rfl

/-- The settled callers without their peaks, by who is in the table and by figures that peaks have
no part in. -/
theorem mem_steadyRows_iff {c : Caller} :
    c ∈ t.steadyRows ↔ ∃ f, t.callers.contains f = true
      ∧ c = (Caller.settle ⟨f, (t.usage f).withoutPeak⟩).steady := by
  unfold steadyRows CallerTable.contains
  simp only [List.mem_map, exists_exists_and_eq_and, Option.isSome_iff_exists]
  constructor
  · rintro ⟨d, hd, rfl⟩
    have hfound := t.callers.find?_eq_some_iff.mpr ⟨hd, rfl⟩
    refine ⟨d.name, ⟨d, hfound⟩, ?_⟩
    rw [usage_of_find? hfound]
    rfl
  · rintro ⟨f, ⟨d, hfound⟩, rfl⟩
    obtain ⟨hd, rfl⟩ := t.callers.find?_eq_some_iff.mp hfound
    refine ⟨d, hd, ?_⟩
    rw [usage_of_find? hfound]
    rfl

/-- **Peaks have no part in the ranking.** -/
theorem SameButPeaks.ranked (h : t.SameButPeaks u) :
    t.ranked.map Caller.steady = u.ranked.map Caller.steady := by
  have hnodup : ∀ v : Tally, (v.steadyRows.map (·.name)).Nodup := by
    intro v
    rw [names_steadyRows]
    exact v.callers.nodup
  have hperm : t.steadyRows.Perm u.steadyRows := by
    rw [List.perm_ext_iff_of_nodup (.of_map _ (hnodup t)) (.of_map _ (hnodup u))]
    intro c
    simp only [mem_steadyRows_iff, h.contains, h.usage]
  show (Report.sort _).map Caller.steady = (Report.sort _).map Caller.steady
  rw [Report.map_steady_sort, Report.map_steady_sort]
  exact Report.sort_of_perm hperm (hnodup t)

end Tally

end SlabWaste
