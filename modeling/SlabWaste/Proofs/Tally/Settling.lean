/-
  SlabWaste.Proofs.Tally.Settling
  ───────────────────────────────
  **ASKING CHANGES NOTHING.**

  A session that is asked for its ranking, its report or its account brings the waste
  of its callers up to date, and goes on with the callers that it was asked for.  No
  event reads their waste, and every answer brings it up to date anew, so all that a
  question changes is what the next one overwrites:

      settle_serve       a request to a session that was settled before
      settle_perform     a run with questions in between, and the run without them

  Main result: `Session.canonical_answers`.
-/
import SlabWaste.Proofs.Report.Ranking
import SlabWaste.Proofs.Tally.Swapping

namespace SlabWaste

open SlabWaste.Symbols

/-! ## §1. Settled callers. -/

/-- To bring the waste up to date twice is to do it once. -/
theorem Caller.settle_settle (c : Caller) : c.settle.settle = c.settle := rfl

/-- So it is for any number of callers. -/
theorem map_settle_settle (cs : List Caller) :
    (cs.map Caller.settle).map Caller.settle = cs.map Caller.settle := by
  rw [List.map_map]
  rfl

/-- A change that does not read the waste may as well be made to settled callers. -/
theorem map_settle_updateCaller {change : Usage → Usage}
    (hchange : ∀ u, (change u.settle).settle = (change u).settle) (name : String)
    (cs : List Caller) :
    (updateCaller name change (cs.map Caller.settle)).map Caller.settle
      = (updateCaller name change cs).map Caller.settle := by
  induction cs with
  | nil => rfl
  | cons c cs ih =>
      rw [List.map_cons, updateCaller, updateCaller]
      by_cases hc : c.name = name
      · have hsettled : c.settle.name = name := hc
        rw [if_pos hsettled, if_pos hc, List.map_cons, List.map_cons, map_settle_settle]
        show (⟨c.name, (change c.usage.settle).settle⟩ : Caller) :: _ = _
        rw [hchange]
        rfl
      · have hsettled : ¬ c.settle.name = name := hc
        rw [if_neg hsettled, if_neg hc, List.map_cons, List.map_cons, ih, Caller.settle_settle]

namespace CallerTable

/-- A table is its rows. -/
theorem eq_of_rows {t u : CallerTable} (h : t.rows = u.rows) : t = u := by
  obtain ⟨rows, nodup⟩ := t
  obtain ⟨others, nodup'⟩ := u
  subst h
  rfl

/-- To settle a table twice is to do it once. -/
theorem settle_settle (t : CallerTable) : t.settle.settle = t.settle :=
  eq_of_rows (map_settle_settle t.rows)

/-- An update after the waste was brought up to date is one before it, as far as the waste is
brought up to date in the end. -/
theorem settle_update (t : CallerTable) {change : Usage → Usage}
    (hchange : ∀ u, (change u.settle).settle = (change u).settle) (name : String) :
    (t.settle.update name change).settle = (t.update name change).settle :=
  eq_of_rows (map_settle_updateCaller hchange name t.rows)

end CallerTable

/-! ## §2. Settled tallies. -/

namespace Tally

/-- To settle a tally twice is to do it once. -/
theorem settle_settle (t : Tally) : t.settle.settle = t.settle := by
  show { t with callers := t.callers.settle.settle } = { t with callers := t.callers.settle }
  rw [CallerTable.settle_settle]

/-- A named event does to a settled tally what it does to the tally. -/
theorem settle_apply (t : Tally) (m : Movement) : (t.settle.apply m).settle = (t.apply m).settle := by
  cases m with
  | allocate address caller bytes =>
      -- the peak is raised to the current bytes, neither of which is waste
      have hcallers : (t.callers.settle.update caller (·.allocate bytes)).settle
          = (t.callers.update caller (·.allocate bytes)).settle :=
        t.callers.settle_update (fun u => rfl) caller
      rw [apply_allocate, apply_allocate]
      unfold settle
      dsimp only
      rw [hcallers]
  | release address =>
      have hheap : t.settle.heap = t.heap := rfl
      cases hfound : t.heap.get? address with
      | none =>
          rw [apply_release_none hfound, apply_release_none (hheap ▸ hfound)]
          unfold settle
          dsimp only
          rw [CallerTable.settle_settle]
      | some a =>
          have hcallers : (t.callers.settle.update a.caller (·.release a.bytes)).settle
              = (t.callers.update a.caller (·.release a.bytes)).settle :=
            t.callers.settle_update (fun u => rfl) a.caller
          rw [apply_release_some hfound, apply_release_some (hheap ▸ hfound)]
          unfold settle
          dsimp only
          rw [hcallers]

/-- What a tally and a resolver are once the tally is settled. -/
def settled (out : Tally × Resolver) : Tally × Resolver := (out.1.settle, out.2)

/-! Tallies that are the same once settled stay so. -/

variable {t u : Tally} {r : Resolver} {family : Family}

/-- An event does not see whether the waste was brought up to date before it, … -/
theorem settled_process (h : t.settle = u.settle) (e : Event) :
    settled (t.process r e) = settled (u.process r e) := by
  show ((t.apply (e.resolve r).1).settle, (e.resolve r).2)
    = ((u.apply (e.resolve r).1).settle, (e.resolve r).2)
  rw [← settle_apply t, ← settle_apply u, h]

/-- … nor does a record, … -/
theorem settled_record (h : t.settle = u.settle) (raw : RawEvent) :
    settled (t.record family r raw) = settled (u.record family r raw) := by
  have hrecords : ({ t with records := t.records + 1 } : Tally).settle
      = ({ u with records := u.records + 1 } : Tally).settle :=
    congrArg (fun v : Tally => { v with records := v.records + 1 }) h
  unfold Tally.record
  cases interpret family raw with
  | unrelated => exact congrArg (·, r) hrecords
  | malformed why =>
      exact congrArg (fun v : Tally => ({ v with malformed := v.malformed + 1 }, r)) hrecords
  | event e => exact settled_process hrecords e

/-- … nor any number of them, … -/
theorem settled_recordAll (h : t.settle = u.settle) (raws : List RawEvent) :
    settled (t.recordAll family r raws) = settled (u.recordAll family r raws) := by
  induction raws generalizing t u r with
  | nil => exact congrArg (·, r) h
  | cons raw raws ih =>
      have hfirst : settled (t.record family r raw) = settled (u.record family r raw) :=
        settled_record h raw
      obtain ⟨htally, hresolver⟩ := Prod.mk.inj hfirst
      rw [recordAll_cons, recordAll_cons, hresolver]
      exact ih htally

/-- … nor a trace. -/
theorem settled_run (h : t.settle = u.settle) (trace : Trace.Reader) :
    settled (t.run family r trace) = settled (u.run family r trace) := by
  have hall : settled (t.recordAll family r (trace.records.map (·.toRawEvent)))
      = settled (u.recordAll family r (trace.records.map (·.toRawEvent))) := settled_recordAll h _
  obtain ⟨htally, hresolver⟩ := Prod.mk.inj hall
  have hloss : ∀ v : Tally, (v.noteLoss trace.missed trace.lost).settle
      = v.settle.noteLoss trace.missed trace.lost := by
    intro v
    unfold noteLoss
    split
    · rfl
    · rfl
  rw [run_eq, run_eq]
  show ((Tally.noteLoss _ _ _).settle, _) = ((Tally.noteLoss _ _ _).settle, _)
  rw [hloss, hloss, htally, hresolver]

end Tally

/-! ## §3. Settled sessions. -/

namespace Session

/-- To settle a session twice is to do it once. -/
theorem settle_settle (s : Session) : s.settle.settle = s.settle := by
  show { s with tally := s.tally.settle.settle } = { s with tally := s.tally.settle }
  rw [Tally.settle_settle]

section serve

variable {s u : Session}

/-- Two sessions are the same once settled if all but the waste of their callers is. -/
theorem settle_eq_iff :
    s.settle = u.settle
      ↔ s.family = u.family ∧ s.resolver = u.resolver ∧ s.tally.settle = u.tally.settle :=
  iff_of_eq (Session.mk.injEq ..)

/-- Sessions that are the same once settled go on as the same, if their tallies do. -/
theorem settle_advance (h : s.settle = u.settle) (other : Resolver)
    {f g : Tally → Resolver → Tally × Resolver}
    (hf : ∀ r, Tally.settled (f s.tally r) = Tally.settled (g u.tally r)) :
    (s.advance other f).settle = (u.advance other g).settle := by
  obtain ⟨hfamily, hresolver, -⟩ := settle_eq_iff.mp h
  obtain ⟨htally, hnext⟩ := Prod.mk.inj (hf (s.resolver.getD other))
  unfold advance
  rw [← hresolver]
  exact settle_eq_iff.mpr ⟨hfamily, congrArg (fun r => s.resolver.map fun _ => r) hnext, htally⟩

/-- Sessions that are the same once settled stay so, whatever they are given. -/
theorem settle_serve (h : s.settle = u.settle) (q : Request) :
    (s.serve q).settle = (u.serve q).settle := by
  obtain ⟨hfamily, hresolver, htally⟩ := settle_eq_iff.mp h
  -- two sessions that settle to the same are served alike, whatever brings the resolver
  cases q with
  | process rule? e =>
      cases rule? with
      | none => exact settle_advance h .plain fun r => Tally.settled_process htally e
      | some rule =>
          have hnext := Tally.settled_process (r := .rule rule) htally e
          exact settle_eq_iff.mpr ⟨hfamily, hresolver, (Prod.mk.inj hnext).1⟩
  | record rule? raw =>
      cases rule? with
      | none =>
          refine settle_advance h .plain fun r => ?_
          rw [hfamily]
          exact Tally.settled_record htally raw
      | some rule =>
          have hnext : Tally.settled (s.tally.record s.family (.rule rule) raw)
              = Tally.settled (u.tally.record u.family (.rule rule) raw) :=
            hfamily ▸ Tally.settled_record htally raw
          exact settle_eq_iff.mpr ⟨hfamily, hresolver, (Prod.mk.inj hnext).1⟩
  | run table trace =>
      refine settle_advance h (.table (.fresh table)) fun r => ?_
      rw [hfamily]
      exact Tally.settled_run htally trace
  | reset => exact settle_eq_iff.mpr ⟨hfamily, hresolver, rfl⟩

end serve

end Session

/-! ## §4. Questions. -/

/-- What a session can be asked about. -/
inductive Inquiry where
  | ranking
  | report
  | account
  deriving DecidableEq, Repr

/-- What it answers: its callers in the order of a report, or a text. -/
inductive Answer where
  | callers (cs : List Caller)
  | text (w : Written)
  deriving DecidableEq, Repr

namespace Tally

/-- The answer to a question. -/
def answer (t : Tally) : Inquiry → Answer
  | .ranking => .callers t.ranked
  | .report => .text t.report
  | .account => .text t.account

/-- An answer brings the waste of the callers up to date itself. -/
theorem answer_settle (t : Tally) (i : Inquiry) : t.settle.answer i = t.answer i := by
  have hranked : t.settle.ranked = t.ranked := by
    show Report.sort ((t.callers.rows.map Caller.settle).map Caller.settle) = _
    rw [map_settle_settle]
    rfl
  cases i with
  | ranking => exact congrArg Answer.callers hranked
  | report => exact congrArg (fun cs => Answer.text (Report.write cs t.missed)) hranked
  | account =>
      exact congrArg (fun cs => Answer.text (Report.Account.write (.ofTally t) cs)) hranked

end Tally

namespace Session

/-- What can be done with a session: to give it something, or to ask it. -/
inductive Step where
  | give (q : Request)
  | ask (i : Inquiry)

/-- What a step gives to the session. -/
def Step.request? : Step → Option Request
  | .give q => some q
  | .ask _ => none

/-- The session after one step. -/
def step (s : Session) : Step → Session
  | .give q => s.serve q
  | .ask _ => s.settle

/-- The session after one step after the other. -/
def perform (s : Session) (steps : List Step) : Session := steps.foldl step s

/-- **Questions leave a run as it is**, but for the waste of the callers. -/
theorem settle_perform {s u : Session} (h : s.settle = u.settle) (steps : List Step) :
    (s.perform steps).settle = (u.after (steps.filterMap Step.request?)).settle := by
  -- for any two sessions that are the same once settled, since the first question settles one only
  induction steps generalizing s u with
  | nil => exact h
  | cons first steps ih =>
      cases first with
      | give q => exact ih (settle_serve h q)
      | ask i => exact ih (s.settle_settle.trans h)

/-- **The order of a report is canonical, and asking for it changes nothing.**  Whatever a table of
callers was asked, its ranking has every entry exactly once, with its waste up to date, the more
wasteful first and those of equal waste by name; a table with the same entries has the same ranking
and the same report, in whatever order its callers came up.  And whatever a session is given, the
questions that it is asked in between change neither its heap, its counts and its resolver, nor the
answer to any later question. -/
theorem canonical_answers (qs : List CallerTable.Request) (s : Session) (steps : List Step) :
    let t := CallerTable.built qs
    let ranking := Report.ranked t.rows
    let asked := s.perform steps
    let unasked := s.after (steps.filterMap Step.request?)
    (ranking.Perm (t.rows.map Caller.settle)
        ∧ (ranking.map (·.name)).Nodup
        ∧ (∀ f, f ∈ ranking.map (·.name) ↔ ∃ q ∈ qs, q.name = f)
        ∧ (∀ c ∈ ranking,
            c.usage.waste = c.usage.current.granted - c.usage.current.requested
              ∧ c.usage.peakWaste = c.usage.peak.granted - c.usage.peak.requested)
        ∧ ranking.Pairwise (fun a b => b.usage.waste < a.usage.waste
            ∨ a.usage.waste = b.usage.waste ∧ a.name < b.name)
        ∧ ∀ u : CallerTable,
            (∀ f, (u.find? f).map Caller.settle = (t.find? f).map Caller.settle) →
            Report.ranked u.rows = ranking
              ∧ ∀ missed, Report.write (Report.ranked u.rows) missed = Report.write ranking missed)
      ∧ asked.tally.heap = unasked.tally.heap ∧ asked.tally.counts = unasked.tally.counts
      ∧ asked.resolver = unasked.resolver ∧ asked.settle = unasked.settle
      ∧ ∀ i, asked.tally.answer i = unasked.tally.answer i := by
  intro t ranking asked unasked
  -- questions only settle, which the requests between them do not notice
  have hsettle : asked.settle = unasked.settle := settle_perform rfl steps
  obtain ⟨-, hresolver, htally⟩ := settle_eq_iff.mp hsettle
  have hheap : asked.tally.settle.heap = unasked.tally.settle.heap := by rw [htally]
  have hcounts : asked.tally.settle.counts = unasked.tally.settle.counts := by rw [htally]
  refine ⟨⟨t.ranked_perm, t.nodup_ranked, fun f => ?_, fun c hc => ?_, t.strict_ranked,
    fun u hu => ?_⟩, hheap, hcounts, hresolver, hsettle, fun i => ?_⟩
  · rw [t.mem_names_ranked_iff, CallerTable.contains_built, List.any_eq_true]
    simp only [beq_iff_eq]
  · obtain ⟨d, -, hd⟩ := Option.map_eq_some_iff.mp (CallerTable.mem_ranked_iff.mp hc)
    rw [← hd]
    exact ⟨rfl, rfl⟩
  · have hranked : Report.ranked u.rows = ranking := CallerTable.ranked_congr hu
    exact ⟨hranked, fun missed => by rw [hranked]⟩
  · rw [← Tally.answer_settle, htally, Tally.answer_settle]

/-- A caller of less than no waste, one that has only an entry, and two of equal waste. -/
def fourCallers : List CallerTable.Request :=
  [.allocate "low" ⟨10, 16⟩, .create "idle", .allocate "zone" ⟨20, 0⟩, .allocate "anon" ⟨20, 0⟩]

/-- An allocation, two questions, and its release. -/
def askedTwice : List Session.Step :=
  [.give (.process none (.allocate 0x10 (.text "fork") ⟨32, 20⟩)), .ask .report, .ask .ranking,
    .give (.process none (.release 0x10))]

/-- The four callers are ranked the same if they come up the other way round, and the questions do
not keep the release from its allocation. -/
theorem canonical_fourCallers :
    let t := CallerTable.built fourCallers
    let asked := ({} : Session).perform askedTwice
    Report.ranked (CallerTable.built fourCallers.reverse).rows = Report.ranked t.rows
      ∧ (Report.ranked t.rows).map (·.name) = ["anon", "zone", "idle", "low"]
      ∧ asked.tally.heap.get? 0x10 = none ∧ asked.tally.unknown = 0
      ∧ asked.tally.answer .ranking
        = .callers [⟨"fork", ⟨⟨32, 20⟩, ⟨0, 0⟩, ⟨32, 20⟩, 1, 1, 0, 12⟩⟩] := by
  intro t asked
  obtain ⟨⟨-, -, -, -, -, hsame⟩, hheap, hcounts, -, -, hanswer⟩ :=
    canonical_answers fourCallers {} askedTwice
  have hperm : (CallerTable.built fourCallers.reverse).rows.Perm t.rows := by decide +kernel
  obtain ⟨hranked, -⟩ := hsame (CallerTable.built fourCallers.reverse)
    fun f => congrArg _ (CallerTable.find?_of_perm hperm f)
  -- the other way round they come up as they are ranked
  have hsorted : Report.ranked (CallerTable.built fourCallers.reverse).rows
      = (CallerTable.built fourCallers.reverse).rows.map Caller.settle :=
    List.mergeSort_of_pairwise (by decide +kernel)
  refine ⟨hranked, ?_, ?_, (congrArg Tally.unknown hcounts).trans (by decide +kernel), ?_⟩
  · rw [← hranked, hsorted]
    decide +kernel
  · rw [hheap]
    decide +kernel
  · have hone : ∀ c : Caller, Report.ranked [c] = [c.settle] :=
      fun c => List.mergeSort_singleton c.settle
    rw [hanswer]
    exact congrArg Answer.callers (hone _)

end Session

end SlabWaste
