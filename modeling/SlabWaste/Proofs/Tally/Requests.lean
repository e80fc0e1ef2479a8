/-
  SlabWaste.Proofs.Tally.Requests
  ───────────────────────────────
  **WHATEVER A SESSION IS ASKED.**

  A session is given single events, written events and traces, and is set back, in
  any order.  However they come, the events that it accounted for since it was set
  back last are what its heap, its callers and its counts of events are made of:

      Moved          what events do to a tally, and to the resolver that names them
      movements      the named events since the last reset
      core_after     the tally is what they make of it
-/
import SlabWaste.Proofs.Tally.Balance
import SlabWaste.Proofs.Tally.Filtering

namespace SlabWaste

open SlabWaste.Symbols

/-! ## §1. What named events make. -/

namespace Tally

/-- The tally without what only written events and traces add to it. -/
def core (t : Tally) : Tally := { t with records := 0, malformed := 0, missed := false, lost := 0 }

/-- A movement does to the core of a tally what it does to the tally, … -/
theorem core_apply (t : Tally) (m : Movement) : (t.apply m).core = t.core.apply m := by
  cases m with
  | allocate address caller bytes => rfl
  | release address =>
      cases h : t.heap.get? address with
      | none =>
          rw [apply_release_none h, apply_release_none (t := t.core) h]
          rfl
      | some a =>
          rw [apply_release_some h, apply_release_some (t := t.core) h]
          rfl

/-- … and so do any number of them. -/
theorem core_foldl_apply (t : Tally) (ms : List Movement) :
    (ms.foldl apply t).core = ms.foldl apply t.core := by
  induction ms generalizing t with
  | nil => rfl
  | cons m ms ih =>
      rw [List.foldl_cons, List.foldl_cons, ih, core_apply]

/-- A note of lost events is no part of the core. -/
theorem core_noteLoss (t : Tally) (missed : Bool) (lost : Nat) :
    (t.noteLoss missed lost).core = t.core := by
  cases missed with
  | true => rfl
  | false => rfl

/-- A tally and a resolver went on over these events: the tally by their movements, and the
resolver by no other rule than before. -/
structure Moved (t : Tally) (r : Resolver) (es : List Event) (out : Tally × Resolver) : Prop where
  core : out.1.core = (es.map (Event.named r.naming)).foldl apply t.core
  sound : out.2.Sound
  naming : out.2.naming = r.naming

/-- One after the other, the events of both were moved. -/
theorem Moved.trans {t : Tally} {r : Resolver} {es fs : List Event} {out last : Tally × Resolver}
    (h : Moved t r es out) (hlast : Moved out.1 out.2 fs last) : Moved t r (es ++ fs) last := by
  refine ⟨?_, hlast.sound, hlast.naming.trans h.naming⟩
  rw [hlast.core, h.core, h.naming, List.map_append, List.foldl_append]

/-- An event is one movement. -/
theorem Moved.process {r : Resolver} (h : r.Sound) (t : Tally) (e : Event) :
    Moved t r [e] (t.process r e) := by
  refine ⟨?_, process_snd_sound h t e, naming_process_snd t r e⟩
  rw [process_fst h, core_apply]
  rfl

end Tally

/-- The event that a written event is to a family, if it is one and can be read. -/
def RawEvent.event? (family : Family) (raw : RawEvent) : Option Event :=
  match interpret family raw with
  | .event e => some e
  | _ => none

/-- The events that written events are. -/
def RawEvent.events (family : Family) (raws : List RawEvent) : List Event :=
  raws.flatMap fun raw => (raw.event? family).toList

namespace Tally

/-- A record is one movement if it is an event, and else none. -/
theorem Moved.record {r : Resolver} (h : r.Sound) (family : Family) (t : Tally) (raw : RawEvent) :
    Moved t r (raw.event? family).toList (t.record family r raw) := by
  unfold Tally.record RawEvent.event?
  cases interpret family raw with
  | unrelated => exact ⟨rfl, h, rfl⟩
  | malformed why => exact ⟨rfl, h, rfl⟩
  | event e =>
      have hmoved := Moved.process h { t with records := t.records + 1 } e
      exact ⟨hmoved.core, hmoved.sound, hmoved.naming⟩

/-- Records are the movements of those of them that are events. -/
theorem Moved.recordAll {r : Resolver} (h : r.Sound) (family : Family) (t : Tally)
    (raws : List RawEvent) :
    Moved t r (RawEvent.events family raws) (t.recordAll family r raws) := by
  induction raws generalizing t r with
  | nil => exact ⟨rfl, h, rfl⟩
  | cons raw raws ih =>
      have hfirst := Moved.record h family t raw
      rw [recordAll_cons]
      exact hfirst.trans (ih hfirst.sound (t.record family r raw).1)

/-- A trace is the movements of its records, in their order. -/
theorem Moved.run {r : Resolver} (h : r.Sound) (family : Family) (t : Tally)
    (trace : Trace.Reader) :
    Moved t r (RawEvent.events family (trace.records.map (·.toRawEvent)))
      (t.run family r trace) := by
  have hall := Moved.recordAll h family t (trace.records.map (·.toRawEvent))
  refine ⟨?_, hall.sound, hall.naming⟩
  rw [run_eq, ← hall.core]
  exact core_noteLoss _ _ _

end Tally

namespace Session

/-! ## §2. Requests. -/

/-- What a session can be given.  A rule that comes with an event names its caller in place of the
session's own resolver. -/
inductive Request where
  | process (rule? : Option (CallSite → String)) (e : Event)
  | record (rule? : Option (CallSite → String)) (raw : RawEvent)
  | run (table : Table) (trace : Trace.Reader)
  | reset

/-- The session after one request. -/
def serve (s : Session) : Request → Session
  | .process none e => s.process e
  | .process (some rule) e => { s with tally := (s.tally.process (.rule rule) e).1 }
  | .record none raw => s.record raw
  | .record (some rule) raw => { s with tally := (s.tally.record s.family (.rule rule) raw).1 }
  | .run table trace => s.run table trace
  | .reset => s.reset

/-- The session after one request after the other. -/
def after (s : Session) (qs : List Request) : Session := qs.foldl serve s

/-- The events that a request has a session account for. -/
def Request.events (family : Family) : Request → List Event
  | .process _ e => [e]
  | .record _ raw => (raw.event? family).toList
  | .run _ trace => RawEvent.events family (trace.records.map (·.toRawEvent))
  | .reset => []

/-- The rule by which a session names the callers of these events. -/
def Request.naming (s : Session) : Request → CallSite → String
  | .process (some rule) _ => rule
  | .record (some rule) _ => rule
  | .run table _ => (s.resolver.getD (.table (.fresh table))).naming
  | _ => s.naming

/-- The named events since the last reset, after one more request. -/
def movementsAfter (s : Session) (ms : List Movement) : Request → List Movement
  | .reset => []
  | q => ms ++ (q.events s.family).map (Event.named (q.naming s))

/-- The named events that a session is given since the last reset. -/
def movements (s : Session) (qs : List Request) : List Movement :=
  qs.foldl s.movementsAfter []

/-! ## §3. One request. -/

/-- A session that names callers as another one does, whatever else it was asked. -/
structure Follows (s u : Session) : Prop where
  family : u.family = s.family
  naming : ∀ other, (u.resolver.getD other).naming = (s.resolver.getD other).naming
  sound : ∀ other, other.Sound → (u.resolver.getD other).Sound

theorem Follows.refl {s : Session} (h : s.Sound) : s.Follows s := by
  refine ⟨rfl, fun _ => rfl, fun other hother => ?_⟩
  unfold Sound at h
  cases hresolver : s.resolver with
  | none => exact hother
  | some r =>
      rw [hresolver] at h
      exact h

/-- A request is named by one rule, whichever of the two sessions it is given to. -/
theorem Follows.naming_request {s u : Session} (h : s.Follows u) (q : Request) :
    q.naming u = q.naming s := by
  cases q with
  | process rule? e =>
      cases rule? with
      | none => exact h.naming .plain
      | some rule => rfl
  | record rule? raw =>
      cases rule? with
      | none => exact h.naming .plain
      | some rule => rfl
  | run table trace => exact h.naming _
  | reset => exact h.naming .plain

/-- A session that goes on over events is moved by them, and names callers as before. -/
theorem Follows.advance {s u : Session} (h : s.Follows u) {other : Resolver}
    (hother : other.Sound) {f : Tally → Resolver → Tally × Resolver} {es : List Event}
    (hf : ∀ r : Resolver, r.Sound → Tally.Moved u.tally r es (f u.tally r)) :
    (u.advance other f).tally.core
        = (es.map (Event.named (u.resolver.getD other).naming)).foldl Tally.apply u.tally.core
      ∧ s.Follows (u.advance other f) := by
  have hmoved := hf _ (h.sound other hother)
  -- a session without a resolver of its own keeps nothing of the one it was lent
  refine ⟨hmoved.core, h.family, ?_, ?_⟩
  · intro another
    rw [← h.naming another]
    show ((u.resolver.map fun _ => (f u.tally (u.resolver.getD other)).2).getD another).naming = _
    cases hresolver : u.resolver with
    | none => rfl
    | some r =>
        rw [hresolver] at hmoved
        exact hmoved.naming
  · intro another hanother
    show ((u.resolver.map fun _ => (f u.tally (u.resolver.getD other)).2).getD another).Sound
    cases hresolver : u.resolver with
    | none => exact hanother
    | some r =>
        rw [hresolver] at hmoved
        exact hmoved.sound

/-- **One request** adds the movements of its events, or takes all of them back. -/
theorem Follows.serve {s u : Session} (h : s.Follows u) {ms : List Movement}
    (htally : u.tally.core = Tally.ofMovements ms) (q : Request) :
    (u.serve q).tally.core = Tally.ofMovements (s.movementsAfter ms q)
      ∧ s.Follows (u.serve q) := by
  -- what the request adds, by the names that the session gives now, are those it gave at first
  have hof : ((q.events u.family).map (Event.named (q.naming u))).foldl Tally.apply u.tally.core
      = Tally.ofMovements (ms ++ (q.events s.family).map (Event.named (q.naming s))) := by
    rw [htally, h.naming_request q, h.family]
    unfold Tally.ofMovements
    rw [List.foldl_append]
  cases q with
  | process rule? e =>
      cases rule? with
      | none =>
          have hown := h.advance Resolver.sound_plain (f := fun t r => t.process r e)
            fun r hr => Tally.Moved.process hr u.tally e
          exact ⟨hown.1.trans hof, hown.2⟩
      | some rule =>
          have hmoved := Tally.Moved.process (r := .rule rule) trivial u.tally e
          exact ⟨hmoved.core.trans hof, h.family, h.naming, h.sound⟩
  | record rule? raw =>
      cases rule? with
      | none =>
          have hown := h.advance Resolver.sound_plain (f := fun t r => t.record u.family r raw)
            fun r hr => Tally.Moved.record hr u.family u.tally raw
          exact ⟨hown.1.trans hof, hown.2⟩
      | some rule =>
          have hmoved := Tally.Moved.record (r := .rule rule) trivial u.family u.tally raw
          exact ⟨hmoved.core.trans hof, h.family, h.naming, h.sound⟩
  | run table trace =>
      have hfresh : (Resolver.table (.fresh table)).Sound := Memo.sound_fresh table
      have hown := h.advance hfresh (f := fun t r => t.run u.family r trace)
        fun r hr => Tally.Moved.run hr u.family u.tally trace
      exact ⟨hown.1.trans hof, hown.2⟩
  | reset => exact ⟨rfl, h.family, h.naming, h.sound⟩

/-! ## §4. Many requests. -/

/-- **After any requests the core of a tally is that of the movements they come to**, and callers
are still named by the same rule. -/
theorem Follows.after {s u : Session} (h : s.Follows u) {ms : List Movement}
    (htally : u.tally.core = Tally.ofMovements ms) (qs : List Request) :
    (u.after qs).tally.core = Tally.ofMovements (qs.foldl s.movementsAfter ms)
      ∧ s.Follows (u.after qs) := by
  induction qs generalizing u ms with
  | nil => exact ⟨htally, h⟩
  | cons q qs ih =>
      obtain ⟨hnext, hfollows⟩ := h.serve htally q
      exact ih hfollows hnext

/-- **A session that began with nothing is what the events since its last reset make of it**, but
for the written events that it looked at and the losses that it was told of. -/
theorem core_after {family : Family} {resolver : Option Resolver}
    (h : ({ family, resolver } : Session).Sound) (qs : List Request) :
    (({ family, resolver } : Session).after qs).tally.core
      = Tally.ofMovements (({ family, resolver } : Session).movements qs) :=
  ((Follows.refl h).after rfl qs).1

end Session

end SlabWaste
