/-
  SlabWaste.Proofs.Tally.Process
  ──────────────────────────────
  **RUNS AS FOLDS OVER NAMED EVENTS.**

  A sound resolver names every call site by one rule, so the callers of a run can
  be named beforehand and the resolver forgotten:

      Session.tally_processAll    single events, one after the other
      Tally.recordAll_fst         written events that can all be read

  Both come down to `Tally.apply` over a list of movements, about which all else
  is proved.
-/
import SlabWaste.Proofs.Symbols.Answers
import SlabWaste.Tally.Session

namespace SlabWaste

open SlabWaste.Symbols

/-! ## §1. One event. -/

namespace Tally

/-- **An event is a movement of the caller that its call site names.** -/
theorem process_fst {r : Resolver} (h : r.Sound) (t : Tally) (e : Event) :
    (t.process r e).1 = t.apply (e.named r.naming) := by
  cases e with
  | allocate address site bytes =>
      show t.apply (.allocate address (r.caller site).1 bytes) = _
      rw [h.caller_fst]
      rfl
  | release address => rfl

/-- To process an event leaves the resolver sound, … -/
theorem process_snd_sound {r : Resolver} (h : r.Sound) (t : Tally) (e : Event) :
    (t.process r e).2.Sound := by
  cases e with
  | allocate address site bytes => exact h.caller_snd site
  | release address => exact h

/-- … and leaves the rule as it is. -/
theorem naming_process_snd (t : Tally) (r : Resolver) (e : Event) :
    (t.process r e).2.naming = r.naming := by
  cases e with
  | allocate address site bytes => exact r.naming_caller_snd site
  | release address => rfl

/-! ## §2. Named events. -/

/-- An allocation is counted, charged to its caller and entered in the heap. -/
theorem apply_allocate (t : Tally) (address : Int) (caller : String) (bytes : Bytes) :
    t.apply (.allocate address caller bytes)
      = { t with
          allocations := t.allocations + 1
          callers := t.callers.update caller (·.allocate bytes)
          heap := t.heap.insert ⟨address, caller, bytes⟩ } := rfl

/-- A release that finds nothing is counted twice, and changes nothing else. -/
theorem apply_release_none {t : Tally} {address : Int} (h : t.heap.get? address = none) :
    t.apply (.release address)
      = { t with releases := t.releases + 1, unknown := t.unknown + 1 } := by
  unfold apply
  simp only [h]

/-- A release that finds an allocation is credited to its caller. -/
theorem apply_release_some {t : Tally} {address : Int} {a : Allocation}
    (h : t.heap.get? address = some a) :
    t.apply (.release address)
      = { t with
          releases := t.releases + 1
          callers := t.callers.update a.caller (·.release a.bytes)
          heap := t.heap.erase address } := by
  unfold apply
  simp only [h]

/-- The tally of a list of named events. -/
def ofMovements (ms : List Movement) : Tally := ms.foldl apply {}

/-- The tally of one more movement is that of the others, and then this one. -/
theorem ofMovements_append_singleton (ms : List Movement) (m : Movement) :
    ofMovements (ms ++ [m]) = (ofMovements ms).apply m := by
  unfold ofMovements
  rw [List.foldl_append]
  rfl

/-- A named event leaves alone what is known of records and of losses. -/
theorem apply_frame (t : Tally) (m : Movement) :
    (t.apply m).records = t.records ∧ (t.apply m).malformed = t.malformed
      ∧ (t.apply m).missed = t.missed ∧ (t.apply m).lost = t.lost := by
  cases m with
  | allocate address caller bytes => exact ⟨rfl, rfl, rfl, rfl⟩
  | release address =>
      cases h : t.heap.get? address with
      | none =>
          rw [apply_release_none h]
          exact ⟨rfl, rfl, rfl, rfl⟩
      | some a =>
          rw [apply_release_some h]
          exact ⟨rfl, rfl, rfl, rfl⟩

/-- Movements have no part in what only written events and traces add to a tally. -/
theorem foldl_apply_frame (ms : List Movement) (t : Tally) :
    (ms.foldl apply t).records = t.records ∧ (ms.foldl apply t).malformed = t.malformed
      ∧ (ms.foldl apply t).missed = t.missed ∧ (ms.foldl apply t).lost = t.lost := by
  induction ms generalizing t with
  | nil => exact ⟨rfl, rfl, rfl, rfl⟩
  | cons m ms ih =>
      obtain ⟨hrecords, hmalformed, hmissed, hlost⟩ := t.apply_frame m
      have hrest := ih (t.apply m)
      rw [hrecords, hmalformed, hmissed, hlost] at hrest
      exact hrest

/-! ## §3. Written events. -/

/-- How many written events were looked at does not matter to the account of a named one. -/
theorem apply_with_records (t : Tally) (n : Nat) (m : Movement) :
    ({ t with records := n } : Tally).apply m = { t.apply m with records := n } := by
  cases m with
  | allocate address caller bytes => rfl
  | release address =>
      cases h : t.heap.get? address with
      | none =>
          rw [apply_release_none h, apply_release_none (t := { t with records := n }) h]
      | some a =>
          rw [apply_release_some h, apply_release_some (t := { t with records := n }) h]

/-- How many records were counted has no part in what movements do. -/
theorem foldl_apply_with_records (ms : List Movement) (t : Tally) (n : Nat) :
    ms.foldl apply { t with records := n } = { ms.foldl apply t with records := n } := by
  induction ms generalizing t with
  | nil => rfl
  | cons m ms ih =>
      show ms.foldl apply (apply { t with records := n } m) = _
      rw [apply_with_records, ih]
      rfl

/-- Written events that can all be read are counted and then accounted for as what they are. -/
theorem recordAll_fst (family : Family) (events : List Event) :
    ∀ (raws : List RawEvent) (t : Tally) (r : Resolver), r.Sound →
      raws.map (interpret family) = events.map .event →
      (recordAll family t r raws).1
        = { (events.map (Event.named r.naming)).foldl apply t with
            records := t.records + raws.length } := by
  induction events with
  | nil =>
      intro raws t r _ hraws
      have hnil : raws = [] := by simpa using hraws
      subst hnil
      rfl
  | cons e events ih =>
      intro raws t r hr hraws
      cases raws with
      | nil => simp at hraws
      | cons raw raws =>
          simp only [List.map_cons, List.cons.injEq] at hraws
          obtain ⟨he, hrest⟩ := hraws
          -- the count of written events runs ahead, which no other figure notices
          have hstep : record family t r raw
              = process { t with records := t.records + 1 } r e := by
            unfold record
            rw [he]
          show (recordAll family (record family t r raw).1 (record family t r raw).2 raws).1 = _
          rw [hstep, ih raws _ _ (process_snd_sound hr _ e) hrest, naming_process_snd,
            process_fst hr, apply_with_records, foldl_apply_with_records]
          simp only [List.map_cons, List.foldl_cons, List.length_cons]
          rw [Nat.add_assoc, Nat.add_comm 1]

end Tally

/-! ## §4. Sessions. -/

namespace Session

/-- The rule by which a session names the callers of single events. -/
def naming (s : Session) : CallSite → String := (s.resolver.getD .plain).naming

/-- The session's resolver, if it has one, is sound. -/
def Sound (s : Session) : Prop := (s.resolver.getD .plain).Sound

/-- Account for a list of events in order. -/
def processAll (s : Session) (es : List Event) : Session := es.foldl process s

/-- **An event of a session is a movement** that its own rule names. -/
theorem tally_process {s : Session} (h : s.Sound) (e : Event) :
    (s.process e).tally = s.tally.apply (e.named s.naming) :=
  Tally.process_fst h s.tally e

/-- A session stays sound, … -/
theorem sound_process {s : Session} (h : s.Sound) (e : Event) : (s.process e).Sound := by
  obtain ⟨family, resolver, tally⟩ := s
  cases resolver with
  | none => exact Resolver.sound_plain
  | some r => exact Tally.process_snd_sound h tally e

/-- … and goes on to name callers as before. -/
theorem naming_process (s : Session) (e : Event) : (s.process e).naming = s.naming := by
  obtain ⟨family, resolver, tally⟩ := s
  cases resolver with
  | none => rfl
  | some r => exact Tally.naming_process_snd tally r e

/-- A session accounts for events as its tally does, with the callers named beforehand. -/
theorem tally_processAll {s : Session} (h : s.Sound) (es : List Event) :
    (s.processAll es).tally = (es.map (Event.named s.naming)).foldl Tally.apply s.tally := by
  induction es generalizing s with
  | nil => rfl
  | cons e es ih =>
      show ((s.process e).processAll es).tally = _
      rw [ih (sound_process h e), naming_process, tally_process h]
      rfl

end Session

end SlabWaste
