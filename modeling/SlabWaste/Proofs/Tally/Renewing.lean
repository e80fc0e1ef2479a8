/-
  SlabWaste.Proofs.Tally.Renewing
  ───────────────────────────────
  **A RESET SESSION IS A NEW ONE.**

  A session that is set back keeps its resolver, and a symbol table keeps what it was
  asked before.  None of that shows: two sessions with one tally, whose resolvers name
  callers by one rule, do the same with whatever they are given, and answer the same,
  whatever either of them remembers:

      observe               all that is seen of a session on its way
      Follows.step          no step changes the rule by which callers are named
      Follows.tally_step    one step of two sessions that name callers alike
      Follows.observe_eq    … and any number of steps

  Main result: `Session.reset_renews`.
-/
import SlabWaste.Proofs.Tally.Joining
import SlabWaste.Proofs.Tally.Settling

namespace SlabWaste

open SlabWaste.Symbols

/-! ## §1. Another resolver of the same rule. -/

namespace Tally

variable {q r : Resolver}

/-- An event does the same with resolvers that name callers alike, … -/
theorem process_fst_of_naming (hq : q.Sound) (hr : r.Sound) (hsame : q.naming = r.naming)
    (t : Tally) (e : Event) : (t.process q e).1 = (t.process r e).1 := by
  rw [process_fst hq, process_fst hr, hsame]

/-- … and so does a trace. -/
theorem run_fst_of_naming (family : Family) (hq : q.Sound) (hr : r.Sound)
    (hsame : q.naming = r.naming) (t : Tally) (trace : Trace.Reader) :
    (t.run family q trace).1 = (t.run family r trace).1 := by
  rw [run_eq, run_eq]
  show Tally.noteLoss _ _ _ = Tally.noteLoss _ _ _
  rw [recordAll_fst_of_naming family hq hr hsame]

end Tally

namespace Session

/-! ## §2. What is seen. -/

/-- What a step is answered, if it asks. -/
def Step.answer? (t : Tally) : Step → Option Answer
  | .give _ => none
  | .ask i => some (t.answer i)

/-- All that is seen of a session as it does one step after the other: after each of them its answer,
if there is one, and its tally. -/
def observe (s : Session) : List Step → List (Option Answer × Tally)
  | [] => []
  | step :: steps => (step.answer? s.tally, (s.step step).tally) :: (s.step step).observe steps

/-! ## §3. One step. -/

section step

variable {s u v : Session}

/-- No request changes the rule by which a session names callers. -/
theorem Follows.keeps (h : s.Follows u) (q : Request) : s.Follows (u.serve q) := by
  -- a rule that comes with the request leaves the session's own resolver alone
  cases q with
  | process rule? e =>
      cases rule? with
      | none =>
          exact (h.advance Resolver.sound_plain (f := fun t r => t.process r e)
            fun r hr => Tally.Moved.process hr u.tally e).2
      | some rule => exact ⟨h.family, h.naming, h.sound⟩
  | record rule? raw =>
      cases rule? with
      | none =>
          exact (h.advance Resolver.sound_plain (f := fun t r => t.record u.family r raw)
            fun r hr => Tally.Moved.record hr u.family u.tally raw).2
      | some rule => exact ⟨h.family, h.naming, h.sound⟩
  | run table trace =>
      have hfresh : (Resolver.table (.fresh table)).Sound := Memo.sound_fresh table
      exact (h.advance hfresh (f := fun t r => t.run u.family r trace)
        fun r hr => Tally.Moved.run hr u.family u.tally trace).2
  | reset => exact ⟨h.family, h.naming, h.sound⟩

/-- Nor does a question change it, … -/
theorem Follows.step (h : s.Follows u) (step : Step) : s.Follows (u.step step) := by
  cases step with
  | give q => exact h.keeps q
  | ask i => exact ⟨h.family, h.naming, h.sound⟩

/-- … nor any number of steps. -/
theorem Follows.perform (h : s.Follows u) (steps : List Step) : s.Follows (u.perform steps) := by
  induction steps generalizing u with
  | nil => exact h
  | cons step steps ih => exact ih (h.step step)

/-- Two sessions that name callers alike and have one tally go on to one tally, by what depends on
the rule of their resolvers only. -/
theorem Follows.tally_advance (hu : s.Follows u) (hv : s.Follows v) (htally : u.tally = v.tally)
    {other : Resolver} (hother : other.Sound) {f : Tally → Resolver → Tally × Resolver}
    (hf : ∀ {q r : Resolver}, q.Sound → r.Sound → q.naming = r.naming →
      (f u.tally q).1 = (f u.tally r).1) :
    (u.advance other f).tally = (v.advance other f).tally := by
  have hsame : (u.resolver.getD other).naming = (v.resolver.getD other).naming := by
    rw [hu.naming, hv.naming]
  show (f u.tally (u.resolver.getD other)).1 = (f v.tally (v.resolver.getD other)).1
  rw [← htally]
  exact hf (hu.sound other hother) (hv.sound other hother) hsame

/-- What the two are given adds the same to both. -/
theorem Follows.tally_serve (hu : s.Follows u) (hv : s.Follows v) (htally : u.tally = v.tally)
    (q : Request) : (u.serve q).tally = (v.serve q).tally := by
  have hfamily : u.family = v.family := hu.family.trans hv.family.symm
  -- the tally moves by names alone, and both sessions give the names of `s`
  cases q with
  | process rule? e =>
      cases rule? with
      | none =>
          exact hu.tally_advance hv htally Resolver.sound_plain (f := fun t r => t.process r e)
            fun hq hr hsame => Tally.process_fst_of_naming hq hr hsame _ e
      | some rule =>
          exact congrArg (fun t : Tally => (t.process (.rule rule) e).1) htally
  | record rule? raw =>
      cases rule? with
      | none =>
          show (u.advance _ _).tally = (v.advance _ fun t r => t.record v.family r raw).tally
          rw [← hfamily]
          exact hu.tally_advance hv htally Resolver.sound_plain
            fun hq hr hsame => Tally.record_fst_of_naming _ hq hr hsame _ raw
      | some rule =>
          show (u.tally.record u.family _ raw).1 = (v.tally.record v.family _ raw).1
          rw [htally, hfamily]
  | run table trace =>
      have hfresh : (Resolver.table (.fresh table)).Sound := Memo.sound_fresh table
      show (u.advance _ _).tally = (v.advance _ fun t r => t.run v.family r trace).tally
      rw [← hfamily]
      exact hu.tally_advance hv htally hfresh
        fun hq hr hsame => Tally.run_fst_of_naming _ hq hr hsame _ trace
  | reset => rfl

/-- **One step does the same to both tallies**: a question settles both. -/
theorem Follows.tally_step (hu : s.Follows u) (hv : s.Follows v) (htally : u.tally = v.tally)
    (step : Step) : (u.step step).tally = (v.step step).tally := by
  cases step with
  | give q => exact hu.tally_serve hv htally q
  | ask i => exact congrArg Tally.settle htally

/-! ## §4. Any number of steps. -/

/-- **Two sessions that name callers alike and have one tally cannot be told apart.** -/
theorem Follows.observe_eq (hu : s.Follows u) (hv : s.Follows v) (htally : u.tally = v.tally)
    (steps : List Step) :
    u.observe steps = v.observe steps ∧ (u.perform steps).tally = (v.perform steps).tally := by
  induction steps generalizing u v with
  | nil => exact ⟨rfl, htally⟩
  | cons step steps ih =>
      have hnext := hu.tally_step hv htally step
      obtain ⟨hobserved, hlast⟩ := ih (hu.step step) (hv.step step) hnext
      refine ⟨?_, hlast⟩
      show (step.answer? u.tally, (u.step step).tally) :: _
        = (step.answer? v.tally, (v.step step).tally) :: _
      rw [htally, hnext, hobserved]

end step

/-- **A session that is set back is a new one.**  Take a session that is new, with a resolver or
without, let it do anything, and set it back; and take another that is new and has the same
resolver, as it was at first or as it is after anything else that it was used for.  Whatever the two
do from now on, they are seen to do the same: after every step they have one tally, with the same
heap, the same callers in the same order and the same counts, and to every question they give one
answer, with the same texts; and they go on to name callers alike. -/
theorem reset_renews {family : Family} {resolver : Option Resolver}
    (h : ({ family, resolver } : Session).Sound) (before other later : List Step) :
    let start : Session := { family, resolver }
    let again := (start.perform before).reset
    let new : Session := { family, resolver := (start.perform other).resolver }
    again.observe later = new.observe later
      ∧ (again.perform later).tally = (new.perform later).tally
      ∧ (again.perform later).family = (new.perform later).family
      ∧ ∀ another, ((again.perform later).resolver.getD another).naming
          = ((new.perform later).resolver.getD another).naming := by
  intro start again new
  -- both sessions follow the first one, and both begin with an empty tally
  have hagain : start.Follows again := ((Follows.refl h).perform before).keeps .reset
  have hother : start.Follows (start.perform other) := (Follows.refl h).perform other
  have hnew : start.Follows new := ⟨rfl, hother.naming, hother.sound⟩
  obtain ⟨hobserved, htally⟩ := hagain.observe_eq hnew rfl later
  have hlast := hagain.perform later
  have hlast' := hnew.perform later
  refine ⟨hobserved, htally, hlast.family.trans hlast'.family.symm, fun another => ?_⟩
  rw [hlast.naming, hlast'.naming]

/-- A session with a table of two symbols. -/
def withTwoSymbols : Session where
  resolver := some (.table (.fresh ⟨#[⟨0x1000, "alpha"⟩, ⟨0x2000, "beta"⟩]⟩))

/-- An allocation by an address of the first symbol, its ranking, and a release of what is not
there. -/
def allocatedOnce : List Step :=
  [.give (.process none (.allocate 0x10 (.address 0x1800) ⟨32, 20⟩)), .ask .ranking,
    .give (.process none (.release 0x20))]

/-- The reset session still knows the address, the new one does not, and that is all. -/
theorem renews_allocatedOnce :
    let again := (withTwoSymbols.perform allocatedOnce).reset
    (∃ memo, again.resolver = some (.table memo) ∧ memo.remembered = [(0x1800, "alpha")])
      ∧ again.observe allocatedOnce = withTwoSymbols.observe allocatedOnce
      ∧ (again.perform allocatedOnce).tally.unknown = 1
      ∧ (again.perform allocatedOnce).tally.callers.rows.map (·.name) = ["alpha"] := by
  intro again
  have hsound : withTwoSymbols.Sound := Memo.sound_fresh _
  obtain ⟨hobserved, hlast, -, -⟩ := reset_renews hsound allocatedOnce [] allocatedOnce
  have htally : (again.perform allocatedOnce).tally
      = (withTwoSymbols.perform allocatedOnce).tally := hlast
  refine ⟨⟨_, rfl, by decide +kernel⟩, hobserved, ?_, ?_⟩
  · rw [htally]
    decide +kernel
  · rw [htally]
    decide +kernel

end Session

end SlabWaste
