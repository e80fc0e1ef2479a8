/-
  SlabWaste.Proofs.Tally.Balance
  ──────────────────────────────
  **A TALLY IS A FUNCTION OF ITS HISTORY.**

  The heap and the table of callers are changed together, but they are not each
  other's mirror: an allocation that was written over leaves the heap and stays
  in the figures of its caller for good.  So the figures are tied to the history,
  not to the heap:

      heap_ofMovements       what lives at an address is what was last done there
      unknown_ofMovements    a release is unknown if it follows no allocation
      Usage.eq_weigh         the figures of a caller are sums over its grants
      contains_ofMovements   a caller has an entry as soon as it is granted memory

  Main result: `Session.tally_processAll_eq_history`.
-/
import SlabWaste.Proofs.Tally.History
import SlabWaste.Proofs.Tally.Process

namespace SlabWaste

open SlabWaste.Symbols

/-! ## §1. The heap. -/

/-- An allocation that was made last at an address is one of the movements. -/
theorem allocate_mem_of_lastAt {x : Int} {ms : List Movement} {a : Allocation}
    (h : (lastAt x ms).bind Movement.allocation? = some a) :
    .allocate a.address a.caller a.bytes ∈ ms := by
  rw [Option.bind_eq_some_iff] at h
  obtain ⟨m, hlast, ha⟩ := h
  have hm : m ∈ ms := (List.mem_filter.mp (List.mem_of_getLast? hlast)).1
  cases m with
  | allocate y g b =>
      simp only [Movement.allocation?, Option.some.injEq] at ha
      subst ha
      exact hm
  | release y => simp [Movement.allocation?] at ha

namespace Tally

/-- What lives at an address is the allocation that was the last movement there. -/
theorem heap_ofMovements (ms : List Movement) (x : Int) :
    (ofMovements ms).heap.get? x = (lastAt x ms).bind Movement.allocation? := by
  -- on the last movement, since the tally goes through the history from the front
  induction ms using List.reverseRecOn generalizing x with
  | nil => exact Heap.get?_empty x
  | append_singleton ms m ih =>
      rw [ofMovements_append_singleton, lastAt_append_singleton]
      cases m with
      | allocate y g b =>
          rw [apply_allocate]
          show ((ofMovements ms).heap.insert ⟨y, g, b⟩).get? x = _
          rw [Heap.get?_insert, ih]
          by_cases hxy : y = x
          · simp [Movement.address, Movement.allocation?, hxy]
          · simp [Movement.address, hxy]
      | release y =>
          cases hy : (ofMovements ms).heap.get? y with
          | none =>
              -- nothing is erased, and nothing was there
              rw [apply_release_none hy]
              show (ofMovements ms).heap.get? x = _
              by_cases hxy : y = x
              · subst hxy
                simp [hy, Movement.address, Movement.allocation?]
              · simp [ih, Movement.address, hxy]
          | some a =>
              rw [apply_release_some hy]
              show ((ofMovements ms).heap.erase y).get? x = _
              rw [Heap.get?_erase, ih]
              by_cases hxy : y = x
              · simp [Movement.address, Movement.allocation?, hxy]
              · simp [Movement.address, hxy]

/-! ## §2. Unknown releases. -/

/-- The releases that found nothing are those whose last movement made no allocation. -/
theorem unknown_ofMovements (ms : List Movement) :
    (ofMovements ms).unknown = (moments ms).countP Moment.unmatched := by
  induction ms using List.reverseRecOn with
  | nil => rfl
  | append_singleton ms m ih =>
      rw [ofMovements_append_singleton, moments_append_singleton, List.countP_append,
        List.countP_map]
      -- whether a release is unmatched lies in its past, which does not change
      have hold : Moment.unmatched ∘ Moment.extend m = Moment.unmatched := rfl
      rw [hold, ← ih]
      cases m with
      | allocate y g b =>
          rw [apply_allocate]
          simp [Moment.unmatched, Movement.isRelease]
      | release y =>
          have hheap := heap_ofMovements ms y
          cases hy : (ofMovements ms).heap.get? y with
          | none =>
              rw [hy] at hheap
              rw [apply_release_none hy]
              simp [Moment.unmatched, Movement.isRelease, Movement.address, ← hheap]
          | some a =>
              rw [hy] at hheap
              rw [apply_release_some hy]
              simp [Moment.unmatched, Movement.isRelease, Movement.address, ← hheap]

/-! ## §3. The figures of a caller. -/

/-- The figures of a caller, zero for one without an entry. -/
def usage (t : Tally) (f : String) : Usage := usageOf f t.callers.rows

/-- To update a caller changes its own figures and nobody else's. -/
theorem usageOf_update (t : CallerTable) (g : String) (change : Usage → Usage) (f : String) :
    usageOf f (t.update g change).rows
      = if g = f then change (usageOf g t.rows) else usageOf f t.rows := by
  have h : (t.update g change).rows.find? (·.name == f) = _ := t.find?_update g change f
  unfold usageOf
  rw [h]
  by_cases hgf : g = f
  · rw [if_pos hgf, if_pos hgf]
    rfl
  · rw [if_neg hgf, if_neg hgf]
    rfl

/-- An allocation changes the figures of the caller it is charged to. -/
theorem usage_allocate (ms : List Movement) (x : Int) (g : String) (b : Bytes) (f : String) :
    (ofMovements (ms ++ [.allocate x g b])).usage f
      = if g = f then ((ofMovements ms).usage f).allocate b else (ofMovements ms).usage f := by
  rw [ofMovements_append_singleton, apply_allocate]
  show usageOf f ((ofMovements ms).callers.update g (·.allocate b)).rows = _
  rw [usageOf_update]
  by_cases hgf : g = f
  · rw [if_pos hgf, if_pos hgf, hgf]
    rfl
  · rw [if_neg hgf, if_neg hgf]
    rfl

/-- A release that finds nothing changes no figures. -/
theorem usage_release_none {ms : List Movement} {x : Int}
    (h : (lastAt x ms).bind Movement.allocation? = none) (f : String) :
    (ofMovements (ms ++ [.release x])).usage f = (ofMovements ms).usage f := by
  rw [ofMovements_append_singleton, apply_release_none (by rw [heap_ofMovements, h])]
  rfl

/-- A release changes the figures of the caller whose allocation it finds. -/
theorem usage_release_some {ms : List Movement} {x : Int} {a : Allocation}
    (h : (lastAt x ms).bind Movement.allocation? = some a) (f : String) :
    (ofMovements (ms ++ [.release x])).usage f
      = if a.caller = f then ((ofMovements ms).usage f).release a.bytes
        else (ofMovements ms).usage f := by
  rw [ofMovements_append_singleton, apply_release_some (by rw [heap_ofMovements, h])]
  show usageOf f ((ofMovements ms).callers.update a.caller (·.release a.bytes)).rows = _
  rw [usageOf_update]
  by_cases haf : a.caller = f
  · rw [if_pos haf, if_pos haf, haf]
    rfl
  · rw [if_neg haf, if_neg haf]
    rfl

/-- A figure that is zero at first, that an allocation increases by its weight and a release by the
turn of that weight, is the sum of the weights of the grants. -/
theorem eq_weigh {M : Type*} [AddCommGroup M] (figure : Usage → M) (w : Bytes → Bool → M)
    (hzero : figure {} = 0)
    (hallocate : ∀ u b, figure (u.allocate b) = figure u + w b false)
    (hrelease : ∀ u b, figure (u.release b) = figure u + (w b true - w b false))
    (f : String) (ms : List Movement) :
    figure ((ofMovements ms).usage f) = weigh f w ms := by
  induction ms using List.reverseRecOn with
  | nil => exact hzero
  | append_singleton ms m ih =>
      cases m with
      | allocate x g b =>
          rw [usage_allocate, weigh_allocate, ← ih]
          by_cases hgf : g = f
          · rw [if_pos hgf, if_pos hgf, hallocate]
          · rw [if_neg hgf, if_neg hgf, add_zero]
      | release x =>
          -- the allocation that the heap gives up is the one whose weight turns
          rw [weigh_release, ← ih]
          cases h : (lastAt x ms).bind Movement.allocation? with
          | none =>
              rw [usage_release_none h]
              simp
          | some a =>
              rw [usage_release_some h]
              by_cases haf : a.caller = f
              · rw [if_pos haf, hrelease]
                simp [turn, haf]
              · rw [if_neg haf]
                simp [turn, haf]

/-- **The total of a caller is what it was ever granted**, … -/
theorem total_usage (f : String) (ms : List Movement) :
    ((ofMovements ms).usage f).total = weigh f (fun b _ => b) ms := by
  apply eq_weigh Usage.total (fun b _ => b) rfl
  · intro u b
    rfl
  · intro u b
    show u.total = u.total + (b - b)
    abel

/-- … its current figure is what of that was not returned, … -/
theorem current_usage (f : String) (ms : List Movement) :
    ((ofMovements ms).usage f).current = weigh f (fun b r => if r then 0 else b) ms := by
  apply eq_weigh Usage.current (fun b r => if r then 0 else b) rfl
  · intro u b
    rfl
  · intro u b
    show u.current - b = u.current + (0 - b)
    abel

/-- … its allocations are counted one by one, … -/
theorem allocations_usage (f : String) (ms : List Movement) :
    ((ofMovements ms).usage f).allocations = weigh f (fun _ _ => (1 : Int)) ms := by
  apply eq_weigh Usage.allocations (fun _ _ => 1) rfl
  · intro u b
    rfl
  · intro u b
    show u.allocations = u.allocations + (1 - 1)
    omega

/-- … and so are their returns. -/
theorem releases_usage (f : String) (ms : List Movement) :
    ((ofMovements ms).usage f).releases = weigh f (fun _ r => if r then (1 : Int) else 0) ms := by
  apply eq_weigh Usage.releases (fun _ r => if r then 1 else 0) rfl
  · intro u b
    show u.releases = u.releases + 0
    omega
  · intro u b
    show u.releases + 1 = u.releases + (1 - 0)
    omega

/-! ## §4. Who has an entry. -/

/-- To update a caller adds it to the table if it was not there. -/
theorem contains_update (t : CallerTable) (g : String) (change : Usage → Usage) (f : String) :
    (t.update g change).contains f = (g == f || t.contains f) := by
  unfold CallerTable.contains
  rw [CallerTable.find?_update]
  by_cases hgf : g = f
  · simp [hgf]
  · simp [hgf]

/-- A caller has an entry exactly if some movement grants it memory. -/
theorem contains_ofMovements (f : String) (ms : List Movement) :
    (ofMovements ms).callers.contains f = ms.any (Movement.grantsTo f) := by
  induction ms using List.reverseRecOn with
  | nil => rfl
  | append_singleton ms m ih =>
      rw [ofMovements_append_singleton, List.any_append, ← ih]
      cases m with
      | allocate x g b =>
          rw [apply_allocate]
          show ((ofMovements ms).callers.update g (·.allocate b)).contains f = _
          rw [contains_update]
          simp [Movement.grantsTo, Bool.or_comm]
      | release x =>
          cases hx : (ofMovements ms).heap.get? x with
          | none =>
              rw [apply_release_none hx]
              simp [Movement.grantsTo]
          | some a =>
              rw [apply_release_some hx]
              show ((ofMovements ms).callers.update a.caller (·.release a.bytes)).contains f = _
              rw [contains_update]
              -- the caller of what is released was granted it before
              by_cases haf : a.caller = f
              · have hmem := allocate_mem_of_lastAt ((heap_ofMovements ms x).symm.trans hx)
                have hany : ms.any (Movement.grantsTo f) = true :=
                  List.any_eq_true.mpr ⟨_, hmem, by simp [Movement.grantsTo, haf]⟩
                simp [ih, hany]
              · simp [haf, Movement.grantsTo]

end Tally

/-! ## §5. Runs of events. -/

/-- A fresh session tallies events as `Tally.ofMovements` does. -/
theorem Session.tally_processAll_fresh (family : Family) (resolver : Option Resolver)
    (h : ({ family, resolver } : Session).Sound) (es : List Event) :
    (({ family, resolver } : Session).processAll es).tally
      = Tally.ofMovements (es.map (Event.named ({ family, resolver } : Session).naming)) :=
  Session.tally_processAll h es

/-- **A run is determined by its history.**  After any events, whatever their addresses and sizes,

* an address holds memory exactly if an allocation came last there, and holds just that;
* the unknown releases are those whose last movement at the address made no allocation;
* of each caller, total and count run over all its grants, releases over those whose next movement
  at the address is a release, current bytes over all the others, written over or not;
* a caller has an entry exactly if some allocation resolves to it. -/
theorem Session.tally_processAll_eq_history (family : Family) (resolver : Option Resolver)
    (h : ({ family, resolver } : Session).Sound) (es : List Event) :
    let s : Session := { family, resolver }
    let ms := es.map (Event.named s.naming)
    let t := (s.processAll es).tally
    (∀ x, t.heap.get? x = (lastAt x ms).bind Movement.allocation?)
      ∧ t.unknown = (moments ms).countP Moment.unmatched
      ∧ (∀ f,
          let grants := grantsTo f ms
          (t.usage f).total = (grants.map (·.here.bytes)).sum
            ∧ (t.usage f).allocations = grants.length
            ∧ (t.usage f).releases = grants.countP Moment.returned
            ∧ (t.usage f).current
                = ((grants.filter (!·.returned)).map (·.here.bytes)).sum)
      ∧ (∀ f, t.callers.contains f = true
          ↔ ∃ x site bytes, Event.allocate x site bytes ∈ es ∧ s.naming site = f) := by
  intro s ms t
  have ht : t = Tally.ofMovements ms := tally_processAll_fresh family resolver h es
  rw [ht]
  refine ⟨Tally.heap_ofMovements ms, Tally.unknown_ofMovements ms, ?_, ?_⟩
  · intro f grants
    -- each figure is a sum of weights, and each weight is zero or one term of the claimed sum
    refine ⟨?_, ?_, ?_, ?_⟩
    · rw [Tally.total_usage, ← sum_map_grantsTo]
    · rw [Tally.allocations_usage, ← sum_map_grantsTo]
      simp [grants]
    · rw [Tally.releases_usage, ← sum_map_grantsTo, List.countP_eq_length_filter]
      have hlength : ((grants.filter Moment.returned).length : Int)
          = ((grants.filter Moment.returned).map fun _ => (1 : Int)).sum := by simp
      rw [hlength, sum_map_filter]
    · rw [Tally.current_usage, ← sum_map_grantsTo, sum_map_filter]
      congr 1
      apply List.map_congr_left
      intro c _
      cases c.returned <;> rfl
  · intro f
    rw [Tally.contains_ofMovements, List.any_eq_true]
    constructor
    · rintro ⟨m, hm, hf⟩
      obtain ⟨e, he, rfl⟩ := List.mem_map.mp hm
      cases e with
      | allocate x site bytes =>
          exact ⟨x, site, bytes, he, by simpa [Event.named, Movement.grantsTo] using hf⟩
      | release x => simp [Event.named, Movement.grantsTo] at hf
    · rintro ⟨x, site, bytes, he, hf⟩
      exact ⟨.allocate x (s.naming site) bytes, List.mem_map.mpr ⟨_, he, rfl⟩,
        by simpa [Movement.grantsTo] using hf⟩

/-- Memory that one caller gets, a second one gets as well, and that is then given back twice. -/
def writtenOver : List Event :=
  [.allocate 0x1000 (.text "alloc_inode+0x4f/0x90") ⟨16, 10⟩,
    .allocate 0x1000 (.text "__d_alloc+0x22/0x1a0") ⟨32, 20⟩, .release 0x1000, .release 0x1000]

/-- The first caller keeps its bytes for good, the second has returned its own, and the second
release is unknown. -/
theorem Session.tally_processAll_writtenOver :
    let t := (({} : Session).processAll writtenOver).tally
    ({} : Session).Sound
      ∧ t.heap.get? 0x1000 = none ∧ t.unknown = 1
      ∧ (t.usage "alloc_inode").current = ⟨16, 10⟩ ∧ (t.usage "alloc_inode").releases = 0
      ∧ (t.usage "__d_alloc").current = ⟨0, 0⟩ ∧ (t.usage "__d_alloc").releases = 1
      ∧ t.callers.contains "__d_alloc" = true := by
  intro t
  obtain ⟨hheap, hunknown, husage, hentry⟩ :=
    tally_processAll_eq_history .all none Resolver.sound_plain writtenOver
  refine ⟨Resolver.sound_plain, (hheap 0x1000).trans (by decide), hunknown.trans (by decide),
    (husage "alloc_inode").2.2.2.trans (by decide), (husage "alloc_inode").2.2.1.trans (by decide),
    (husage "__d_alloc").2.2.2.trans (by decide), (husage "__d_alloc").2.2.1.trans (by decide),
    (hentry "__d_alloc").mpr ?_⟩
  exact ⟨0x1000, .text "__d_alloc+0x22/0x1a0", ⟨32, 20⟩, by decide, by decide⟩

end SlabWaste
