/-
  SlabWaste.Proofs.Tally.Safety
  ─────────────────────────────
  **NO STEP FAILS.**

  A release that finds its allocation is credited to the entry of the caller that is
  written there.  That there is one is nowhere asked.  Here the steps of a session
  are written out with every question that they leave out, as `try…`, and none of
  these is ever answered in the negative, since the heap and the callers stay
  linked:

      Linked               every live allocation stands at its own address, and
                           its caller has an entry
      Linked.tryApply      a named event can be accounted for, and keeps the link
      tryServe_eq          … and so can everything that a session is given
      foldlM_of_invariant  from one step to a run

  Main result: `Session.no_step_fails`.
-/
import SlabWaste.Proofs.Symbols.Checked
import SlabWaste.Proofs.Tally.Settling

namespace SlabWaste

open SlabWaste.Symbols

/-! ## §1. Runs of steps that may fail. -/

/-- A run of steps that cannot fail under an invariant, which they keep, does not fail. -/
theorem foldlM_of_invariant {ε α β : Type} {P : β → Prop} {attempt : β → α → Except ε β}
    {step : β → α → β} (h : ∀ b a, P b → attempt b a = .ok (step b a) ∧ P (step b a))
    (xs : List α) {b : β} (hb : P b) :
    xs.foldlM attempt b = .ok (xs.foldl step b) ∧ P (xs.foldl step b) := by
  induction xs generalizing b with
  | nil => exact ⟨rfl, hb⟩
  | cons x xs ih =>
      obtain ⟨hstep, hnext⟩ := h b x hb
      rw [List.foldlM_cons, List.foldl_cons, hstep]
      exact ih hnext

/-! ## §2. The link. -/

namespace CallerTable

/-- A name that the table contains is that of an entry. -/
theorem exists_of_contains {t : CallerTable} {name : String} (h : t.contains name = true) :
    ∃ c, t.find? name = some c ∧ c.name = name := by
  obtain ⟨c, hc⟩ := Option.isSome_iff_exists.mp h
  exact ⟨c, hc, (t.find?_eq_some_iff.mp hc).2⟩

/-- To bring the waste up to date adds no caller and drops none. -/
theorem contains_settle (t : CallerTable) (name : String) :
    t.settle.contains name = t.contains name := by
  show ((t.rows.map Caller.settle).find? (·.name == name)).isSome = _
  rw [List.find?_map, Option.isSome_map]
  rfl

end CallerTable

namespace Tally

/-- Every live allocation stands at its own address, and its caller has an entry. -/
structure Linked (t : Tally) : Prop where
  address : ∀ {x : Int} {a : Allocation}, t.heap.get? x = some a → a.address = x
  entry : ∀ {x : Int} {a : Allocation}, t.heap.get? x = some a → t.callers.contains a.caller = true

/-- To begin with nothing is live, so that nothing can be without an owner. -/
theorem linked_start : ({} : Tally).Linked := by
  refine ⟨fun {x a} h => ?_, fun {x a} h => ?_⟩
  · rw [Heap.get?_empty] at h
    cases h
  · rw [Heap.get?_empty] at h
    cases h

/-- A tally with the same heap and the same names of callers is linked as well. -/
theorem Linked.of_eq {t u : Tally} (h : t.Linked) (hheap : u.heap = t.heap)
    (hcallers : ∀ f, u.callers.contains f = t.callers.contains f) : u.Linked := by
  refine ⟨fun {x a} ha => h.address (hheap ▸ ha), fun {x a} ha => ?_⟩
  rw [hcallers]
  exact h.entry (hheap ▸ ha)

/-- A named event leaves what it does not touch linked, and links what it enters. -/
theorem Linked.apply {t : Tally} (h : t.Linked) (m : Movement) : (t.apply m).Linked := by
  -- what a movement puts into the heap is at its own address and charged to its caller
  have hentered : ∀ {a : Allocation}, m.allocation? = some a →
      a.address = m.address ∧ t.chargedTo m = some a.caller := by
    intro a ha
    cases m with
    | allocate address caller bytes =>
        cases ha
        exact ⟨rfl, rfl⟩
    | release address => cases ha
  refine ⟨fun {x a} ha => ?_, fun {x a} ha => ?_⟩
  · rw [heap_apply] at ha
    split at ha
    · next hx => exact (hentered ha).1.trans hx
    · exact h.address ha
  · rw [heap_apply] at ha
    rw [contains_apply]
    split at ha
    · rw [(hentered ha).2, beq_self_eq_true, Bool.true_or]
    · rw [h.entry ha, Bool.or_true]

/-! ## §3. Events. -/

/-- Account for one named event.  A release that finds its allocation needs the entry of the caller
that is written there. -/
def tryApply (t : Tally) : Movement → Except Gap Tally
  | .allocate address caller bytes => .ok (t.apply (.allocate address caller bytes))
  | .release address =>
      match t.heap.get? address with
      | none => .ok { t with releases := t.releases + 1, unknown := t.unknown + 1 }
      | some a =>
          match t.callers.find? a.caller with
          | none => .error (.noEntry a.caller)
          | some c =>
              .ok { t with
                releases := t.releases + 1
                callers := t.callers.update c.name (·.release a.bytes)
                heap := t.heap.erase address }

/-- **A matched release finds the entry of its caller.** -/
theorem Linked.tryApply {t : Tally} (h : t.Linked) (m : Movement) :
    t.tryApply m = .ok (t.apply m) := by
  cases m with
  | allocate address caller bytes => rfl
  | release address =>
      unfold Tally.tryApply
      cases hfound : t.heap.get? address with
      | none =>
          rw [apply_release_none hfound]
          simp only [hfound]
      | some a =>
          obtain ⟨c, hc, hname⟩ := CallerTable.exists_of_contains (h.entry hfound)
          rw [apply_release_some hfound]
          simp only [hfound, hc, hname]

/-- The link is what it takes: where it is missing, the release fails. -/
example : (({ heap := ({} : Heap).insert ⟨0x10, "fork", ⟨32, 20⟩⟩ } : Tally).tryApply
    (.release 0x10)).isOk = false := by
  decide +kernel

end Tally

/-- Name the caller of an event; a release has none. -/
def Event.tryResolve (r : Resolver) : Event → Except Gap (Movement × Resolver)
  | .allocate address site bytes => do
      let (name, r) ← r.tryCaller site
      .ok (.allocate address name bytes, r)
  | .release address => .ok (.release address, r)

/-- A caller is named without a gap. -/
theorem Event.tryResolve_eq (r : Resolver) (e : Event) : e.tryResolve r = .ok (e.resolve r) := by
  cases e with
  | allocate address site bytes =>
      unfold tryResolve
      simp only
      rw [Resolver.tryCaller_eq]
      rfl
  | release address => rfl

namespace Tally

variable {t : Tally}

/-- Account for one event. -/
def tryProcess (t : Tally) (r : Resolver) (e : Event) : Except Gap (Tally × Resolver) := do
  let (m, r) ← e.tryResolve r
  .ok (← t.tryApply m, r)

/-- An event meets no gap, and leaves every live address with an owner. -/
theorem Linked.tryProcess (h : t.Linked) (r : Resolver) (e : Event) :
    t.tryProcess r e = .ok (t.process r e) ∧ (t.process r e).1.Linked := by
  refine ⟨?_, h.apply (e.resolve r).1⟩
  unfold Tally.tryProcess
  rw [Event.tryResolve_eq]
  show (do .ok (← t.tryApply (e.resolve r).1, (e.resolve r).2)) = _
  rw [h.tryApply]
  rfl

/-! ## §4. Written events and traces. -/

/-- Account for one written event.  That a field is missing or no number is expected, and is no
gap. -/
def tryRecord (family : Family) (t : Tally) (r : Resolver) (raw : RawEvent) :
    Except Gap (Tally × Resolver) :=
  let t := { t with records := t.records + 1 }
  match interpret family raw with
  | .unrelated => .ok (t, r)
  | .malformed _ => .ok ({ t with malformed := t.malformed + 1 }, r)
  | .event e => t.tryProcess r e

/-- Account for a list of written events in order. -/
def tryRecordAll (family : Family) (t : Tally) (r : Resolver) (raws : List RawEvent) :
    Except Gap (Tally × Resolver) :=
  raws.foldlM (fun s raw => tryRecord family s.1 s.2 raw) (t, r)

/-- Account for a trace. -/
def tryRun (family : Family) (t : Tally) (r : Resolver) (trace : Trace.Reader) :
    Except Gap (Tally × Resolver) := do
  let (t, r) ← t.tryRecordAll family r (trace.records.map (·.toRawEvent))
  .ok (t.noteLoss trace.missed trace.lost, r)

/-- What only counts leaves a tally linked. -/
theorem Linked.count (h : t.Linked) (records malformed lost : Nat) (missed : Bool) :
    ({ t with records, malformed, missed, lost } : Tally).Linked :=
  h.of_eq rfl fun _ => rfl

/-- So it is with a record, whatever it says, … -/
theorem Linked.tryRecord (h : t.Linked) (family : Family) (r : Resolver) (raw : RawEvent) :
    t.tryRecord family r raw = .ok (t.record family r raw)
      ∧ (t.record family r raw).1.Linked := by
  have hcounted : ({ t with records := t.records + 1 } : Tally).Linked := h.count _ _ _ _
  unfold Tally.tryRecord Tally.record
  cases interpret family raw with
  | unrelated => exact ⟨rfl, hcounted⟩
  | malformed why => exact ⟨rfl, h.count _ _ _ _⟩
  | event e => exact hcounted.tryProcess r e

/-- … with any number of them, … -/
theorem Linked.tryRecordAll (h : t.Linked) (family : Family) (r : Resolver)
    (raws : List RawEvent) :
    t.tryRecordAll family r raws = .ok (t.recordAll family r raws)
      ∧ (t.recordAll family r raws).1.Linked :=
  foldlM_of_invariant (P := fun s : Tally × Resolver => s.1.Linked)
    (fun s raw hs => hs.tryRecord family s.2 raw) raws h

/-- … and with a trace. -/
theorem Linked.tryRun (h : t.Linked) (family : Family) (r : Resolver) (trace : Trace.Reader) :
    t.tryRun family r trace = .ok (t.run family r trace) ∧ (t.run family r trace).1.Linked := by
  obtain ⟨hall, hlinked⟩ := h.tryRecordAll family r (trace.records.map (·.toRawEvent))
  constructor
  · unfold Tally.tryRun
    rw [hall]
    rfl
  · rw [run_eq]
    unfold noteLoss
    split
    · exact hlinked.count _ _ _ _
    · exact hlinked

/-- Questions change no owner. -/
theorem Linked.settle (h : t.Linked) : t.settle.Linked :=
  h.of_eq rfl t.callers.contains_settle

end Tally

namespace Session

/-! ## §5. Sessions. -/

/-- Go on with the session's resolver, or with another one if it has none. -/
def tryAdvance (s : Session) (other : Resolver)
    (g : Tally → Resolver → Except Gap (Tally × Resolver)) : Except Gap Session := do
  let (tally, resolver) ← g s.tally (s.resolver.getD other)
  .ok { s with tally, resolver := s.resolver.map fun _ => resolver }

/-- The session after one request. -/
def tryServe (s : Session) : Request → Except Gap Session
  | .process none e => s.tryAdvance .plain fun t r => t.tryProcess r e
  | .process (some rule) e => do
      let (tally, _) ← s.tally.tryProcess (.rule rule) e
      .ok { s with tally }
  | .record none raw => s.tryAdvance .plain fun t r => t.tryRecord s.family r raw
  | .record (some rule) raw => do
      let (tally, _) ← s.tally.tryRecord s.family (.rule rule) raw
      .ok { s with tally }
  | .run table trace =>
      s.tryAdvance (.table (.fresh table)) fun t r => t.tryRun s.family r trace
  | .reset => .ok s.reset

/-- The session after one step. -/
def tryStep (s : Session) : Step → Except Gap Session
  | .give q => s.tryServe q
  | .ask _ => .ok s.settle

/-- The session after one step after the other. -/
def tryPerform (s : Session) (steps : List Step) : Except Gap Session := steps.foldlM tryStep s

/-- What meets no gap with any resolver meets none in a session. -/
theorem tryAdvance_eq (s : Session) {other : Resolver}
    {g : Tally → Resolver → Except Gap (Tally × Resolver)} {f : Tally → Resolver → Tally × Resolver}
    (h : ∀ r, g s.tally r = .ok (f s.tally r) ∧ (f s.tally r).1.Linked) :
    s.tryAdvance other g = .ok (s.advance other f) ∧ (s.advance other f).tally.Linked := by
  obtain ⟨hok, hlinked⟩ := h (s.resolver.getD other)
  refine ⟨?_, hlinked⟩
  unfold tryAdvance
  rw [hok]
  rfl

/-- **Whatever a linked session is given, it takes it**, and is linked again. -/
theorem tryServe_eq {s : Session} (h : s.tally.Linked) (q : Request) :
    s.tryServe q = .ok (s.serve q) ∧ (s.serve q).tally.Linked := by
  -- each request is checked step by step, and what holds the entries together is kept by it
  cases q with
  | process rule? e =>
      cases rule? with
      | none =>
          exact s.tryAdvance_eq (g := fun t r => t.tryProcess r e)
            (f := fun t r => t.process r e) fun r => h.tryProcess r e
      | some rule =>
          obtain ⟨hok, hlinked⟩ := h.tryProcess (.rule rule) e
          refine ⟨?_, hlinked⟩
          show (do let (tally, _) ← s.tally.tryProcess (.rule rule) e; .ok { s with tally }) = _
          rw [hok]
          rfl
  | record rule? raw =>
      cases rule? with
      | none =>
          exact s.tryAdvance_eq (g := fun t r => t.tryRecord s.family r raw)
            (f := fun t r => t.record s.family r raw) fun r => h.tryRecord s.family r raw
      | some rule =>
          obtain ⟨hok, hlinked⟩ := h.tryRecord s.family (.rule rule) raw
          refine ⟨?_, hlinked⟩
          show (do let (tally, _) ← s.tally.tryRecord s.family (.rule rule) raw; .ok { s with tally })
            = _
          rw [hok]
          rfl
  | run table trace =>
      exact s.tryAdvance_eq (g := fun t r => t.tryRun s.family r trace)
        (f := fun t r => t.run s.family r trace) fun r => h.tryRun s.family r trace
  | reset => exact ⟨rfl, Tally.linked_start⟩

/-- **No step meets a gap**, and none leaves one for the next. -/
theorem tryStep_eq {s : Session} (h : s.tally.Linked) (step : Step) :
    s.tryStep step = .ok (s.step step) ∧ (s.step step).tally.Linked := by
  cases step with
  | give q => exact tryServe_eq h q
  | ask i => exact ⟨rfl, h.settle⟩

/-- **No step of a session fails.**  Of a session that is new, with a resolver or without, and does
anything whatever, in every state that it comes to

* a live allocation stands at its own address, and its caller has an entry of that name;
* so the entry that a release asks for is there, as is everything else that a step may look for: the
  session does all steps with their checks, and does them as it does without. -/
theorem no_step_fails (family : Family) (resolver : Option Resolver) (steps : List Step) :
    let start : Session := { family, resolver }
    let s := start.perform steps
    start.tryPerform steps = .ok s
      ∧ (∀ x a, s.tally.heap.get? x = some a →
          a.address = x ∧ ∃ c, s.tally.callers.find? a.caller = some c ∧ c.name = a.caller)
      ∧ ∀ m, s.tally.tryApply m = .ok (s.tally.apply m) := by
  intro start s
  obtain ⟨hok, hlinked⟩ : start.tryPerform steps = .ok s ∧ s.tally.Linked :=
    foldlM_of_invariant (P := fun s : Session => s.tally.Linked)
      (fun s step h => tryStep_eq h step) steps Tally.linked_start
  exact ⟨hok, fun x a ha => ⟨hlinked.address ha, CallerTable.exists_of_contains (hlinked.entry ha)⟩,
    hlinked.tryApply⟩

/-- An allocation, and another at its address by another caller, who was named by another rule. -/
def overwritten : List Step :=
  [.give (.process none (.allocate 0x10 (.text "fork+0x1/0x2") ⟨32, 20⟩)),
    .give (.process (some fun _ => "exec") (.allocate 0x10 (.address 0x2000) ⟨64, 40⟩))]

/-- The release is credited to the second caller, who has an entry. -/
theorem no_step_fails_overwritten :
    let s := ({} : Session).perform overwritten
    ({} : Session).tryPerform overwritten = .ok s
      ∧ (∃ c, s.tally.callers.find? "exec" = some c ∧ c.name = "exec")
      ∧ s.tally.tryApply (.release 0x10) = .ok (s.tally.apply (.release 0x10)) := by
  intro s
  obtain ⟨hok, hlinked, hrelease⟩ := no_step_fails .all none overwritten
  have hlive : s.tally.heap.get? 0x10 = some ⟨0x10, "exec", ⟨64, 40⟩⟩ := by decide +kernel
  exact ⟨hok, (hlinked _ _ hlive).2, hrelease _⟩

end Session

end SlabWaste
