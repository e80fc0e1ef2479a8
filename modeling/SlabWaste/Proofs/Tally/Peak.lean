/-
  SlabWaste.Proofs.Tally.Peak
  ───────────────────────────
  **PEAKS ARE PEAKS.**

  The peak of a caller is looked at when it is granted memory, and never when it
  gives memory back.  That is enough as long as no size is negative: what a
  release takes away was added before, by the same caller, and not yet taken
  away.  The current bytes are a sum of sizes (`Tally.current_usage`), so they
  are not negative either, whatever is released twice or unknown.

      current_nonneg      the current bytes are not negative
      size_peak_append    one movement raises the peak to the current bytes
      peak_le_total       the peak is never above the total
      isGreatest_peak     the peak is the greatest of the current bytes so far

  Main result: `Session.peak_processAll`.
-/
import SlabWaste.Proofs.Tally.Balance
import Mathlib.Algebra.Order.BigOperators.Group.List
import Mathlib.Order.Bounds.Basic

namespace SlabWaste

open SlabWaste.Symbols

/-! ## §1. The two sizes. -/

/-- The two sizes of an allocation, which are accounted for independently. -/
inductive SizeKind where
  | granted
  | requested
  deriving DecidableEq, Repr

namespace Bytes

/-- One of the two byte counts. -/
def size (k : SizeKind) (b : Bytes) : Int :=
  match k with
  | .granted => b.granted
  | .requested => b.requested

theorem size_zero (k : SizeKind) : ({} : Bytes).size k = 0 := by cases k <;> rfl

theorem size_add (k : SizeKind) (a b : Bytes) : (a + b).size k = a.size k + b.size k := by
  cases k <;> rfl

theorem size_sub (k : SizeKind) (a b : Bytes) : (a - b).size k = a.size k - b.size k := by
  cases k <;> rfl

/-- Each of the two sizes adds up. -/
def sizeHom (k : SizeKind) : Bytes →+ Int := ⟨⟨size k, size_zero k⟩, size_add k⟩

theorem size_sup (k : SizeKind) (a b : Bytes) : (a.sup b).size k = max (a.size k) (b.size k) := by
  cases k <;> rfl

end Bytes

/-- No movement grants a negative number of bytes of the given kind. -/
def NoNegative (k : SizeKind) (ms : List Movement) : Prop := ∀ m ∈ ms, 0 ≤ m.bytes.size k

theorem NoNegative.of_prefix {k : SizeKind} {pre ms : List Movement} (h : NoNegative k ms)
    (hpre : pre <+: ms) : NoNegative k pre :=
  fun m hm => h m (hpre.subset hm)

namespace Tally

/-! ## §2. Current and total bytes. -/

/-- A part of the current bytes is the sum of that part of what was not returned. -/
theorem part_current_usage (part : Bytes →+ Int) (f : String) (ms : List Movement) :
    part ((ofMovements ms).usage f).current = weigh f (fun b r => if r then 0 else part b) ms := by
  apply eq_weigh (fun u => part u.current) _ (map_zero part)
  · intro u b
    exact map_add part u.current b
  · intro u b
    show part (u.current - b) = part u.current + (0 - part b)
    rw [map_sub]
    omega

/-- A part of the total bytes is the sum of that part of all bytes. -/
theorem part_total_usage (part : Bytes →+ Int) (f : String) (ms : List Movement) :
    part ((ofMovements ms).usage f).total = weigh f (fun b _ => part b) ms := by
  apply eq_weigh (fun u => part u.total) _ (map_zero part)
  · intro u b
    exact map_add part u.total b
  · intro u b
    show part u.total = part u.total + (part b - part b)
    omega

/-- Moments are moments of the movements there are. -/
theorem here_mem_of_mem_moments {ms : List Movement} {c : Moment} (h : c ∈ moments ms) :
    c.here ∈ ms := by
  rw [split_of_mem_moments h]
  simp

/-- If every movement weighs no more, so do all of them together. -/
theorem weigh_le_weigh {w v : Bytes → Bool → Int} {ms : List Movement}
    (h : ∀ m ∈ ms, ∀ r, w m.bytes r ≤ v m.bytes r) (f : String) : weigh f w ms ≤ weigh f v ms := by
  apply List.sum_le_sum
  intro c hc
  unfold share
  split
  · exact h c.here (here_mem_of_mem_moments hc) c.returned
  · exact le_refl 0

/-- What weighs nothing weighs nothing together. -/
theorem weigh_zero (f : String) (ms : List Movement) : weigh f (fun _ _ => (0 : Int)) ms = 0 := by
  unfold weigh share
  simp

/-- A release leaves peak and total as they are. -/
theorem peak_total_release (ms : List Movement) (x : Int) (f : String) :
    ((ofMovements (ms ++ [.release x])).usage f).peak = ((ofMovements ms).usage f).peak
      ∧ ((ofMovements (ms ++ [.release x])).usage f).total = ((ofMovements ms).usage f).total := by
  cases hx : (lastAt x ms).bind Movement.allocation? with
  | none =>
      rw [usage_release_none hx]
      exact ⟨rfl, rfl⟩
  | some a =>
      rw [usage_release_some hx]
      split
      · exact ⟨rfl, rfl⟩
      · exact ⟨rfl, rfl⟩

section parts

variable (part : Bytes →+ Int) {ms : List Movement}

/-- What a caller has is not negative if nothing was that it got, … -/
theorem part_current_nonneg (h : ∀ m ∈ ms, 0 ≤ part m.bytes) (f : String) :
    0 ≤ part ((ofMovements ms).usage f).current := by
  rw [part_current_usage]
  calc (0 : Int) = weigh f (fun _ _ => 0) ms := (weigh_zero f ms).symm
    _ ≤ weigh f (fun b r => if r then 0 else part b) ms := by
        apply weigh_le_weigh
        intro m hm r
        cases r with
        | true => exact le_refl _
        | false => exact h m hm

/-- … and is no more than all that it ever got. -/
theorem part_current_le_total (h : ∀ m ∈ ms, 0 ≤ part m.bytes) (f : String) :
    part ((ofMovements ms).usage f).current ≤ part ((ofMovements ms).usage f).total := by
  rw [part_current_usage, part_total_usage]
  apply weigh_le_weigh
  intro m hm r
  cases r with
  | true => exact h m hm
  | false => exact le_refl _

/-- One movement does not lower the total. -/
theorem part_total_append (ms : List Movement) {m : Movement} (h : 0 ≤ part m.bytes) (f : String) :
    part ((ofMovements ms).usage f).total ≤ part ((ofMovements (ms ++ [m])).usage f).total := by
  cases m with
  | allocate x g b =>
      have hb : 0 ≤ part b := h
      rw [part_total_usage, part_total_usage, weigh_allocate]
      split <;> omega
  | release x => rw [(peak_total_release ms x f).2]

end parts

/-- So no current size is negative. -/
theorem current_nonneg {k : SizeKind} {ms : List Movement} (h : NoNegative k ms) (f : String) :
    0 ≤ ((ofMovements ms).usage f).current.size k :=
  part_current_nonneg (Bytes.sizeHom k) h f

/-! ## §3. The peak. -/

/-- A release that takes nothing negative away does not raise the current bytes. -/
theorem current_release_le {k : SizeKind} {ms : List Movement} (h : NoNegative k ms) (x : Int)
    (f : String) :
    ((ofMovements (ms ++ [.release x])).usage f).current.size k
      ≤ ((ofMovements ms).usage f).current.size k := by
  cases hx : (lastAt x ms).bind Movement.allocation? with
  | none =>
      rw [usage_release_none hx]
  | some a =>
      -- what is taken away was granted by a movement of the history
      have hsize : 0 ≤ a.bytes.size k := h _ (allocate_mem_of_lastAt hx)
      rw [usage_release_some hx]
      split
      · show (((ofMovements ms).usage f).current - a.bytes).size k ≤ _
        rw [Bytes.size_sub]
        omega
      · exact le_refl _

/-- No current size is above the peak. -/
theorem current_le_peak {k : SizeKind} {ms : List Movement} (h : NoNegative k ms) (f : String) :
    ((ofMovements ms).usage f).current.size k ≤ ((ofMovements ms).usage f).peak.size k := by
  induction ms using List.reverseRecOn with
  | nil => exact le_refl _
  | append_singleton ms m ih =>
      have hms : NoNegative k ms := h.of_prefix (List.prefix_append ms [m])
      cases m with
      | allocate x g b =>
          rw [usage_allocate]
          split
          · show (((ofMovements ms).usage f).current + b).size k
                ≤ (((ofMovements ms).usage f).peak.sup _).size k
            rw [Bytes.size_sup]
            exact le_max_right _ _
          · exact ih hms
      | release x =>
          -- the peak stays, and the current bytes can only fall below it
          rw [(peak_total_release ms x f).1]
          exact le_trans (current_release_le hms x f) (ih hms)

/-- One movement raises the peak to the current bytes, if they are greater. -/
theorem size_peak_append {k : SizeKind} {ms : List Movement} {m : Movement}
    (h : NoNegative k (ms ++ [m])) (f : String) :
    ((ofMovements (ms ++ [m])).usage f).peak.size k
      = max (((ofMovements ms).usage f).peak.size k)
          (((ofMovements (ms ++ [m])).usage f).current.size k) := by
  have hms : NoNegative k ms := h.of_prefix (List.prefix_append ms [m])
  have hpeak := current_le_peak hms f
  cases m with
  | allocate x g b =>
      rw [usage_allocate]
      split
      · exact Bytes.size_sup k _ _
      · -- the figures of another caller stay, and its peak is above them already
        rw [max_eq_left hpeak]
  | release x =>
      rw [(peak_total_release ms x f).1, max_eq_left (le_trans (current_release_le hms x f) hpeak)]

/-- A peak is no more than all that a caller ever got. -/
theorem peak_le_total {k : SizeKind} {ms : List Movement} (h : NoNegative k ms) (f : String) :
    ((ofMovements ms).usage f).peak.size k ≤ ((ofMovements ms).usage f).total.size k := by
  induction ms using List.reverseRecOn with
  | nil => exact le_refl _
  | append_singleton ms m ih =>
      have hms : NoNegative k ms := h.of_prefix (List.prefix_append ms [m])
      have htotal := part_total_append (Bytes.sizeHom k) ms (h m (by simp)) f
      have hcurrent := part_current_le_total (Bytes.sizeHom k) h f
      rw [size_peak_append h]
      exact max_le (le_trans (ih hms) htotal) hcurrent

/-- The value at the whole of a list is the greatest of those at its beginnings, if it is greater
than all before. -/
theorem isGreatest_append {α : Type} {value : List α → Int} {xs : List α} {x : α} {n : Int}
    (h : IsGreatest {v | ∃ pre, pre <+: xs ∧ v = value pre} n) :
    IsGreatest {v | ∃ pre, pre <+: xs ++ [x] ∧ v = value pre} (max n (value (xs ++ [x]))) := by
  obtain ⟨⟨pre, hpre, hreached⟩, hupper⟩ := h
  constructor
  · -- the greater of the two is reached where it was reached before, or only now
    rcases le_total n (value (xs ++ [x])) with hle | hle
    · rw [max_eq_right hle]
      exact ⟨xs ++ [x], List.prefix_refl _, rfl⟩
    · rw [max_eq_left hle]
      exact ⟨pre, hpre.trans (List.prefix_append xs [x]), hreached⟩
  · rintro v ⟨other, hother, rfl⟩
    rcases List.prefix_concat_iff.mp hother with rfl | hother
    · exact le_max_right _ _
    · exact le_trans (hupper ⟨other, hother, rfl⟩) (le_max_left _ _)

/-- The empty list has one beginning, itself. -/
theorem isGreatest_nil {α : Type} (value : List α → Int) :
    IsGreatest {v | ∃ pre, pre <+: ([] : List α) ∧ v = value pre} (value []) := by
  refine ⟨⟨[], List.prefix_refl _, rfl⟩, ?_⟩
  rintro v ⟨pre, hpre, rfl⟩
  rw [List.prefix_nil.mp hpre]

/-- The beginnings of what is mapped are the beginnings, mapped. -/
theorem values_map {α β : Type} (value : List β → Int) (g : α → β) (xs : List α) :
    {v | ∃ pre, pre <+: xs.map g ∧ v = value pre}
      = {v | ∃ pre, pre <+: xs ∧ v = value (pre.map g)} := by
  ext v
  constructor
  · rintro ⟨pre, hpre, rfl⟩
    obtain ⟨start, hstart, rfl⟩ := List.prefix_map_iff.mp hpre
    exact ⟨start, hstart, rfl⟩
  · rintro ⟨pre, hpre, rfl⟩
    exact ⟨pre.map g, hpre.map g, rfl⟩

/-- The peak is the greatest of the current byte counts after the movements so far, the empty
history included. -/
theorem isGreatest_peak {k : SizeKind} {ms : List Movement} (h : NoNegative k ms) (f : String) :
    IsGreatest {n | ∃ pre, pre <+: ms ∧ n = ((ofMovements pre).usage f).current.size k}
      (((ofMovements ms).usage f).peak.size k) := by
  induction ms using List.reverseRecOn with
  | nil => exact isGreatest_nil fun pre => ((ofMovements pre).usage f).current.size k
  | append_singleton ms m ih =>
      have hms : NoNegative k ms := h.of_prefix (List.prefix_append ms [m])
      rw [size_peak_append h]
      exact isGreatest_append (ih hms)

end Tally

/-! ## §4. Runs of events. -/

/-- No event grants a negative number of bytes of the given kind. -/
def Event.NoNegative (k : SizeKind) (es : List Event) : Prop :=
  ∀ x site bytes, Event.allocate x site bytes ∈ es → 0 ≤ bytes.size k

/-- To name its caller does not change the size of an event. -/
theorem Event.NoNegative.named {k : SizeKind} {es : List Event} (h : Event.NoNegative k es)
    (name : CallSite → String) : SlabWaste.NoNegative k (es.map (named name)) := by
  intro m hm
  obtain ⟨e, he, rfl⟩ := List.mem_map.mp hm
  cases e with
  | allocate x site bytes => exact h x site bytes he
  | release x => cases k <;> exact le_refl 0

/-- **Peaks are peaks, and no figure is out of bounds.**  If no size of a kind is negative, then for
every caller the peak of that kind after a run is the greatest of the current byte counts after its
beginnings, the empty one included, and after each beginning `0 ≤ current ≤ peak ≤ total`, whatever
addresses are allocated twice, released twice or released unknown. -/
theorem Session.peak_processAll (family : Family) (resolver : Option Resolver)
    (h : ({ family, resolver } : Session).Sound) (k : SizeKind) (es : List Event)
    (hes : Event.NoNegative k es) (f : String) :
    let figures := fun pre : List Event =>
      (({ family, resolver } : Session).processAll pre).tally.usage f
    IsGreatest {n | ∃ pre, pre <+: es ∧ n = (figures pre).current.size k} ((figures es).peak.size k)
      ∧ ∀ pre, pre <+: es →
          0 ≤ (figures pre).current.size k
            ∧ (figures pre).current.size k ≤ (figures pre).peak.size k
            ∧ (figures pre).peak.size k ≤ (figures pre).total.size k := by
  intro figures
  have hfigures : ∀ pre, figures pre
      = (Tally.ofMovements
          (pre.map (Event.named ({ family, resolver } : Session).naming))).usage f := by
    intro pre
    show (({ family, resolver } : Session).processAll pre).tally.usage f = _
    rw [tally_processAll_fresh family resolver h pre]
  have hms := hes.named ({ family, resolver } : Session).naming
  simp only [hfigures]
  constructor
  · -- the beginnings of the named events are the named beginnings of the events
    obtain ⟨⟨pre, hpre, hreached⟩, hupper⟩ := Tally.isGreatest_peak hms f
    obtain ⟨start, hstart, rfl⟩ := List.prefix_map_iff.mp hpre
    refine ⟨⟨start, hstart, hreached⟩, ?_⟩
    rintro n ⟨other, hother, rfl⟩
    exact hupper ⟨_, hother.map _, rfl⟩
  · intro pre hpre
    have hpre := hms.of_prefix (hpre.map _)
    exact ⟨Tally.current_nonneg hpre f, Tally.current_le_peak hpre f, Tally.peak_le_total hpre f⟩

theorem noNegative_writtenOver (k : SizeKind) : Event.NoNegative k writtenOver := by
  intro x site bytes hmem
  simp only [writtenOver, List.mem_cons, List.not_mem_nil, or_false, Event.allocate.injEq,
    reduceCtorEq] at hmem
  rcases hmem with ⟨-, -, rfl⟩ | ⟨-, -, rfl⟩
  · cases k <;> decide
  · cases k <;> decide

/-- The second caller of `writtenOver` had 20 requested bytes at its peak, of 20 in total. -/
theorem Session.peak_writtenOver :
    let figures := fun pre : List Event =>
      (({} : Session).processAll pre).tally.usage "__d_alloc"
    ({} : Session).Sound ∧ Event.NoNegative .requested writtenOver
      ∧ IsGreatest {n | ∃ pre, pre <+: writtenOver ∧ n = (figures pre).current.requested} 20
      ∧ (figures writtenOver).current.requested = 0
      ∧ (figures writtenOver).total.requested = 20 := by
  intro figures
  have hsizes := noNegative_writtenOver .requested
  obtain ⟨hpeak, _⟩ :=
    peak_processAll .all none Resolver.sound_plain .requested writtenOver hsizes "__d_alloc"
  have h20 : (figures writtenOver).peak.size .requested = 20 := by decide
  rw [h20] at hpeak
  exact ⟨Resolver.sound_plain, hsizes, hpeak, by decide, by decide⟩

end SlabWaste
