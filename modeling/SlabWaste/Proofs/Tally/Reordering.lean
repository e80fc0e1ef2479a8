/-
  SlabWaste.Proofs.Tally.Reordering
  ─────────────────────────────────
  **SESSIONS MAY TAKE EVENTS IN ANOTHER ORDER, UP TO PEAKS.**

  What holds of two movements holds of two events, since a session that does one
  step after the other goes on to name callers by one rule.  It may have been asked
  for reports and accounts in between: these store the waste of the callers, which
  events leave as it is, whichever comes first.

      Rearranged                events that differ by swaps of neighbours at different
                                addresses
      Rearranged.foldl_apply    what such swaps do to a tally
      tallyOf_eq                events as movements of callers that are named

  Main result: `Session.swapped_events`.
-/
import SlabWaste.Proofs.Tally.Renewing

namespace SlabWaste

open SlabWaste.Symbols

/-! ## §1. Events in another order. -/

/-- The address that an event is about. -/
def Event.address : Event → Int
  | .allocate address _ _ => address
  | .release address => address

/-- Naming its caller leaves an event where it is. -/
theorem Event.address_named (e : Event) (name : CallSite → String) :
    (e.named name).address = e.address := by
  cases e <;> rfl

/-- The same events, but for some swaps of neighbours at different addresses. -/
inductive Rearranged : List Event → List Event → Prop where
  | refl (es : List Event) : Rearranged es es
  | swap (front back : List Event) {e₁ e₂ : Event} (h : e₁.address ≠ e₂.address) :
      Rearranged (front ++ e₁ :: e₂ :: back) (front ++ e₂ :: e₁ :: back)
  | trans {es fs gs : List Event} (h : Rearranged es fs) (k : Rearranged fs gs) : Rearranged es gs

/-- **Swaps of neighbours change peaks only**, wherever they are among the events. -/
theorem Rearranged.foldl_apply {es fs : List Event} (h : Rearranged es fs)
    (name : CallSite → String) (t : Tally) :
    ((es.map (Event.named name)).foldl Tally.apply t).SameButPeaks
      ((fs.map (Event.named name)).foldl Tally.apply t) := by
  induction h with
  | refl es => exact .refl _
  | swap front back hne =>
      rw [← Event.address_named _ name, ← Event.address_named _ name] at hne
      simp only [List.map_append, List.map_cons, List.foldl_append, List.foldl_cons]
      exact (Tally.sameButPeaks_swap _ hne).foldl_apply _
  | trans _ _ ih₁ ih₂ => exact ih₁.trans ih₂

/-! ## §2. Sessions. -/

namespace Session

variable {u : Session}

/-- The tally of a session after more events, their callers named by a rule of their own if there is
one. -/
def tallyOf (s : Session) (rule? : Option (CallSite → String)) (es : List Event) : Tally :=
  (s.after (es.map (.process rule?))).tally

/-- An event moves memory of the caller that is named, and the session goes on as before. -/
theorem serve_process (h : u.Sound) (rule? : Option (CallSite → String)) (e : Event) :
    (u.serve (.process rule? e)).tally = u.tally.apply (e.named (rule?.getD u.naming))
      ∧ (u.serve (.process rule? e)).Sound ∧ (u.serve (.process rule? e)).naming = u.naming := by
  cases rule? with
  | none => exact ⟨tally_process h e, sound_process h e, naming_process u e⟩
  | some rule => exact ⟨Tally.process_fst (r := .rule rule) trivial u.tally e, h, rfl⟩

/-- Events one after the other are movements, all named by one rule. -/
theorem tallyOf_eq (h : u.Sound) (rule? : Option (CallSite → String)) (es : List Event) :
    u.tallyOf rule? es
      = (es.map (Event.named (rule?.getD u.naming))).foldl Tally.apply u.tally := by
  unfold tallyOf after
  induction es generalizing u with
  | nil => rfl
  | cons e es ih =>
      obtain ⟨htally, hsound, hnaming⟩ := serve_process h rule? e
      rw [List.map_cons, List.foldl_cons, ih hsound, htally, hnaming]
      rfl

/-- **Events at different addresses may be swapped, up to peaks.**  Whatever a session was given and
asked before, reports and accounts included, and whatever names the callers: two events at different
addresses lead to the same tally in either order, but for peaks, and these too are the same for
every caller that not both are charged or credited to.  So events that differ by such swaps only
lead to the same tally but for peaks, with the same callers ranked in the same order, and with the
same figures but for their peaks. -/
theorem swapped_events {family : Family} {resolver : Option Resolver}
    (h : ({ family, resolver } : Session).Sound) (steps : List Step)
    (rule? : Option (CallSite → String)) :
    let s := ({ family, resolver } : Session).perform steps
    (∀ e₁ e₂ : Event, e₁.address ≠ e₂.address →
      (s.tallyOf rule? [e₁, e₂]).SameButPeaks (s.tallyOf rule? [e₂, e₁])
        ∧ ∀ f, ¬ (s.tally.chargedTo (e₁.named (rule?.getD s.naming)) = some f
            ∧ s.tally.chargedTo (e₂.named (rule?.getD s.naming)) = some f) →
          (s.tallyOf rule? [e₁, e₂]).usage f = (s.tallyOf rule? [e₂, e₁]).usage f)
      ∧ ∀ es fs, Rearranged es fs →
        (s.tallyOf rule? es).SameButPeaks (s.tallyOf rule? fs)
          ∧ (s.tallyOf rule? es).ranked.map Caller.steady
            = (s.tallyOf rule? fs).ranked.map Caller.steady := by
  intro s
  have hsound : s.Sound := ((Follows.refl h).perform steps).sound .plain Resolver.sound_plain
  constructor
  · intro e₁ e₂ hne
    -- from here on both orders are movements of one tally
    rw [← e₁.address_named (rule?.getD s.naming), ← e₂.address_named (rule?.getD s.naming)] at hne
    rw [tallyOf_eq hsound, tallyOf_eq hsound]
    exact ⟨Tally.sameButPeaks_swap s.tally hne, fun f hf => Tally.usage_swap hne hf⟩
  · intro es fs hrearranged
    rw [tallyOf_eq hsound, tallyOf_eq hsound]
    have hsame := hrearranged.foldl_apply (rule?.getD s.naming) s.tally
    exact ⟨hsame, hsame.ranked⟩

/-- An allocation, and the report on it. -/
def reportedOnce : List Step :=
  [.give (.process none (.allocate 0x10 (.text "fork") ⟨32, 20⟩)), .ask .report]

/-- A release and an allocation, by the one caller that has anything. -/
def exchange : Event × Event := (.release 0x10, .allocate 0x20 (.text "fork") ⟨32, 20⟩)

/-- **The order does matter for peaks**: released first, the memory of the caller peaks at half of
what it does when it is released last.  All else is the same, with the waste that the report has
left behind, and so is the ranking. -/
theorem swapped_exchange :
    let s := ({} : Session).perform reportedOnce
    let t := s.tallyOf none [exchange.1, exchange.2]
    let u := s.tallyOf none [exchange.2, exchange.1]
    t.SameButPeaks u ∧ t.ranked.map Caller.steady = u.ranked.map Caller.steady
      ∧ (t.usage "fork").peak = ⟨32, 20⟩ ∧ (u.usage "fork").peak = ⟨64, 40⟩
      ∧ (t.usage "fork").waste = 12 ∧ (u.usage "fork").peakWaste = 12
      ∧ t.usage "exit" = u.usage "exit" := by
  intro s t u
  have hsound : ({} : Session).Sound := Resolver.sound_plain
  have hne : exchange.1.address ≠ exchange.2.address := by decide
  obtain ⟨htwo, hmany⟩ := swapped_events hsound reportedOnce none
  obtain ⟨hsame, hpeaks⟩ := htwo _ _ hne
  obtain ⟨-, hranked⟩ := hmany _ _ (.swap [] [] hne)
  have hother : t.usage "exit" = u.usage "exit" := hpeaks "exit" (by decide +kernel)
  exact ⟨hsame, hranked, by decide +kernel, by decide +kernel, by decide +kernel, by decide +kernel,
    hother⟩

end Session

end SlabWaste
