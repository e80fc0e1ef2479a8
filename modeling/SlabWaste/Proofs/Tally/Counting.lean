/-
  SlabWaste.Proofs.Tally.Counting
  ───────────────────────────────
  **EVERY RECORD COUNTS ONCE.**

  A tally counts a record as it comes in, and counts it again when it knows what
  the record is: an allocation, a release, or malformed.  A record of an event that
  the family does not have is counted the first time only.  The counts are raised
  in different steps, and the records of a trace come in merged.  Whatever comes
  in, each count is the number of records of its share:

      RawEvent.share         what a record counts as
      perm_records           merging loses no record
      Accounts.record        one record raises the count of its share
      record_of_idle         … and none but that, if it is no event
      recordAll_relevant     so records that are no events may as well be missing

  Main result: `Session.records_accounted`.
-/
import SlabWaste.Proofs.Event.Accepting

namespace SlabWaste

open SlabWaste.Symbols

/-! ## §1. Shares. -/

/-- What a record counts as. -/
inductive Share where
  | allocation
  | release
  | malformed
  /-- Its event is none of the family. -/
  | other
  deriving DecidableEq, Repr

namespace RawEvent

/-- What a record counts as for a family. -/
def share (family : Family) (raw : RawEvent) : Share :=
  match interpret family raw with
  | .unrelated => .other
  | .malformed _ => .malformed
  | .event (.allocate _ _ _) => .allocation
  | .event (.release _) => .release

/-- The record is no event of the family: it is malformed, or its event is another one. -/
def Idle (family : Family) (raw : RawEvent) : Prop :=
  raw.share family = .malformed ∨ raw.share family = .other

variable {family : Family} {raw : RawEvent}

/-- A record counts as other just if its family does not know it. -/
theorem share_eq_other_iff : raw.share family = .other ↔ family.knows raw.event = false := by
  rw [← interpret_eq_unrelated_iff]
  unfold share
  cases interpret family raw with
  | unrelated => simp
  | malformed why => simp
  | event e =>
      cases e with
      | allocate address site bytes => simp
      | release address => simp

/-- An idle record is one that is no event. -/
theorem idle_iff : raw.Idle family ↔ raw.event? family = none := by
  unfold Idle share event?
  cases interpret family raw with
  | unrelated => simp
  | malformed why => simp
  | event e =>
      cases e with
      | allocate address site bytes => simp
      | release address => simp

/-- The records of the four shares are all records. -/
theorem length_eq_shares (family : Family) (raws : List RawEvent) :
    raws.length
      = raws.countP (·.share family == .allocation) + raws.countP (·.share family == .release)
        + raws.countP (·.share family == .malformed)
        + raws.countP (!family.knows ·.event) := by
  induction raws with
  | nil => rfl
  | cons raw raws ih =>
      have hother : (!family.knows raw.event) = (raw.share family == .other) := by
        rw [Bool.eq_iff_iff, Bool.not_eq_true', beq_iff_eq, share_eq_other_iff]
      simp only [List.length_cons, List.countP_cons, ih, hother]
      cases raw.share family with
      | allocation => simp; omega
      | release => simp; omega
      | malformed => simp; omega
      | other => simp; omega

end RawEvent

/-! ## §2. Merging. -/

/-- Merging loses no record and makes none up, even if the records had no places in order. -/
theorem Trace.Reader.perm_records (r : Trace.Reader) : r.records.Perm r.inFileOrder :=
  perm_of_ties r.filter_cpu_records

/-- The records that a reader kept, as they are written, in file order. -/
def Trace.Reader.raws (r : Trace.Reader) : List RawEvent := r.inFileOrder.map (·.toRawEvent)

/-! ## §3. Tallies. -/

namespace Tally

/-- The counts of a tally are those of the records that it was given. -/
structure Accounts (family : Family) (t : Tally) (raws : List RawEvent) : Prop where
  records : t.records = raws.length
  allocations : t.allocations = raws.countP (·.share family == .allocation)
  releases : t.releases = raws.countP (·.share family == .release)
  malformed : t.malformed = raws.countP (·.share family == .malformed)

variable {family : Family} {t : Tally} {raws : List RawEvent}

theorem accounts_start (family : Family) : Accounts family {} [] := ⟨rfl, rfl, rfl, rfl⟩

/-- The order of the records does not matter for the counts. -/
theorem Accounts.of_perm {moved : List RawEvent} (h : Accounts family t raws)
    (hperm : moved.Perm raws) : Accounts family t moved := by
  constructor
  · rw [hperm.length_eq, h.records]
  · rw [hperm.countP_eq, h.allocations]
  · rw [hperm.countP_eq, h.releases]
  · rw [hperm.countP_eq, h.malformed]

/-- The tally with one more record, which is malformed or not, and nothing else. -/
def countOnly (t : Tally) (malformed : Bool) : Tally :=
  { t with records := t.records + 1, malformed := t.malformed + malformed.toNat }

/-- **A record that is no event** is counted, and changes nothing else. -/
theorem record_of_idle {raw : RawEvent} (h : raw.Idle family) (t : Tally) (r : Resolver) :
    t.record family r raw = (t.countOnly (raw.share family == .malformed), r) := by
  unfold Tally.record
  unfold RawEvent.Idle RawEvent.share at *
  cases hread : interpret family raw with
  | unrelated => rfl
  | malformed why => rfl
  | event e =>
      rw [hread] at h
      cases e with
      | allocate address site bytes => simp at h
      | release address => simp at h

/-- **One record raises the count of its share** and no other. -/
theorem counts_record (family : Family) (t : Tally) (r : Resolver) (raw : RawEvent) :
    (t.record family r raw).1.allocations
        = t.allocations + (if raw.share family = .allocation then 1 else 0)
      ∧ (t.record family r raw).1.releases
        = t.releases + (if raw.share family = .release then 1 else 0)
      ∧ (t.record family r raw).1.malformed
        = t.malformed + (if raw.share family = .malformed then 1 else 0) := by
  unfold Tally.record RawEvent.share
  cases interpret family raw with
  | unrelated => exact ⟨rfl, rfl, rfl⟩
  | malformed why => exact ⟨rfl, rfl, rfl⟩
  | event e =>
      cases e with
      | allocate address site bytes => exact ⟨rfl, rfl, rfl⟩
      | release address =>
          -- the release counts whether it finds an allocation or not
          show (Tally.apply { t with records := t.records + 1 } (.release address)).allocations = _
            ∧ (Tally.apply { t with records := t.records + 1 } (.release address)).releases = _
            ∧ (Tally.apply { t with records := t.records + 1 } (.release address)).malformed = _
          rw [apply_with_records]
          cases hfound : t.heap.get? address with
          | none =>
              rw [apply_release_none hfound]
              exact ⟨rfl, rfl, rfl⟩
          | some a =>
              rw [apply_release_some hfound]
              exact ⟨rfl, rfl, rfl⟩

/-- **One more record is accounted for**, whichever share it has. -/
theorem Accounts.record (h : Accounts family t raws) (r : Resolver) (raw : RawEvent) :
    Accounts family (t.record family r raw).1 (raws ++ [raw]) := by
  have hshare : ∀ share : Share, (raws ++ [raw]).countP (·.share family == share)
      = raws.countP (·.share family == share) + if raw.share family = share then 1 else 0 := by
    intro share
    rw [List.countP_append, List.countP_singleton]
    simp only [beq_iff_eq]
  obtain ⟨hallocations, hreleases, hmalformed⟩ := t.counts_record family r raw
  constructor
  · rw [records_record, h.records, List.length_append, List.length_singleton]
  · rw [hallocations, h.allocations, hshare]
  · rw [hreleases, h.releases, hshare]
  · rw [hmalformed, h.malformed, hshare]

/-- … and so are any number of them. -/
theorem Accounts.recordAll (h : Accounts family t raws) (r : Resolver) (more : List RawEvent) :
    Accounts family (t.recordAll family r more).1 (raws ++ more) := by
  induction more generalizing t r raws with
  | nil =>
      rw [List.append_nil]
      exact h
  | cons raw more ih =>
      rw [recordAll_cons, List.append_cons]
      exact ih (h.record r raw) _

/-- A run counts the records that its trace kept, in whatever order they come out. -/
theorem Accounts.run (h : Accounts family t raws) (r : Resolver) (trace : Trace.Reader) :
    Accounts family (t.run family r trace).1 (raws ++ trace.raws) := by
  have hmerged : Accounts family
      (t.recordAll family r (trace.records.map (·.toRawEvent))).1 (raws ++ trace.raws) :=
    (h.recordAll r _).of_perm ((trace.perm_records.symm.map _).append_left raws)
  rw [run_eq]
  -- what the trace says of losses changes no count
  unfold noteLoss
  split
  · exact ⟨hmerged.records, hmerged.allocations, hmerged.releases, hmerged.malformed⟩
  · exact hmerged

/-- A run looks at every record that its trace kept. -/
theorem records_run_add (family : Family) (t : Tally) (r : Resolver) (trace : Trace.Reader) :
    (t.run family r trace).1.records = t.records + trace.kept.length := by
  have hall := records_recordAll family t r (trace.records.map (·.toRawEvent))
  rw [List.length_map, trace.perm_records.length_eq, Trace.Reader.inFileOrder,
    List.length_reverse] at hall
  rw [run_eq, ← hall]
  cases trace.missed with
  | true => rfl
  | false => rfl

/-- The records are the allocations, the releases, the malformed ones and those of other events. -/
theorem Accounts.sum (h : Accounts family t raws) :
    t.records = t.allocations + t.releases + t.malformed
      + raws.countP (!family.knows ·.event) := by
  rw [h.records, h.allocations, h.releases, h.malformed]
  exact RawEvent.length_eq_shares family raws

/-! ## §4. Records that are no events. -/

/-- An event changes nothing but what its movement does. -/
theorem core_process (t : Tally) (r : Resolver) (e : Event) :
    (t.process r e).1.core = (t.core.process r e).1 := core_apply t (e.resolve r).1

/-- Tallies that differ in what only records and traces add to them still do after a record. -/
theorem core_record (family : Family) {u : Tally} (h : t.core = u.core) (r : Resolver)
    (raw : RawEvent) :
    (t.record family r raw).1.core = (u.record family r raw).1.core
      ∧ (t.record family r raw).2 = (u.record family r raw).2 := by
  unfold Tally.record
  cases interpret family raw with
  | unrelated => exact ⟨h, rfl⟩
  | malformed why => exact ⟨h, rfl⟩
  | event e =>
      refine ⟨?_, rfl⟩
      have hcounted : ({ t with records := t.records + 1 } : Tally).core
          = ({ u with records := u.records + 1 } : Tally).core := h
      rw [core_process, core_process, hcounted]

/-- **Records that are no events may as well be missing**: without them the heap, the callers, the
allocations, the releases and the resolver come out the same. -/
theorem recordAll_relevant {u : Tally} (h : t.core = u.core) (r : Resolver)
    (raws : List RawEvent) :
    (t.recordAll family r raws).1.core
        = (u.recordAll family r (raws.filter fun raw => (raw.event? family).isSome)).1.core
      ∧ (t.recordAll family r raws).2
        = (u.recordAll family r (raws.filter fun raw => (raw.event? family).isSome)).2 := by
  induction raws generalizing t u r with
  | nil => exact ⟨h, rfl⟩
  | cons raw raws ih =>
      rw [recordAll_cons]
      -- what gives no event only counts, and the core leaves those counts out
      cases hevent : raw.event? family with
      | some e =>
          obtain ⟨hcore, hresolver⟩ := core_record family h r raw
          rw [List.filter_cons_of_pos (by rw [hevent]; rfl), recordAll_cons, ← hresolver]
          exact ih hcore _
      | none =>
          rw [List.filter_cons_of_neg (by rw [hevent]; decide),
            record_of_idle (RawEvent.idle_iff.mpr hevent)]
          have hcore : (t.countOnly (raw.share family == .malformed)).core = u.core := h
          exact ih hcore r

end Tally

/-! ## §5. Sessions. -/

namespace Session

/-- What brings records to a session. -/
inductive Feed where
  | record (rule? : Option (CallSite → String)) (raw : RawEvent)
  | run (table : Table) (trace : Trace.Reader)

namespace Feed

/-- The request that feeds them. -/
def request : Feed → Request
  | .record rule? raw => .record rule? raw
  | .run table trace => .run table trace

/-- The records that are fed. -/
def raws : Feed → List RawEvent
  | .record _ raw => [raw]
  | .run _ trace => trace.raws

end Feed

/-- Every feed adds the records that it has, and leaves the family as it is. -/
theorem accounts_serve {s : Session} {raws : List RawEvent}
    (h : s.tally.Accounts s.family raws) (f : Feed) :
    (s.serve f.request).tally.Accounts s.family (raws ++ f.raws)
      ∧ (s.serve f.request).family = s.family := by
  cases f with
  | record rule? raw =>
      cases rule? with
      | none => exact ⟨h.record (s.resolver.getD .plain) raw, rfl⟩
      | some rule => exact ⟨h.record (.rule rule) raw, rfl⟩
  | run table trace => exact ⟨h.run (s.resolver.getD (.table (.fresh table))) trace, rfl⟩

/-- After any feeds, a tally accounts for all their records. -/
theorem accounts_after {s : Session} {raws : List RawEvent}
    (h : s.tally.Accounts s.family raws) (fs : List Feed) :
    (s.after (fs.map Feed.request)).tally.Accounts s.family (raws ++ fs.flatMap Feed.raws) := by
  induction fs generalizing s raws with
  | nil =>
      rw [List.flatMap_nil, List.append_nil]
      exact h
  | cons f fs ih =>
      obtain ⟨hnext, hfamily⟩ := accounts_serve h f
      rw [List.flatMap_cons, ← List.append_assoc, ← hfamily]
      rw [← hfamily] at hnext
      exact ih hnext

/-- What leaves the resolver as it is changes the tally of a session only. -/
theorem advance_eq {s : Session} {other : Resolver} {f : Tally → Resolver → Tally × Resolver}
    {t : Tally} (h : f s.tally (s.resolver.getD other) = (t, s.resolver.getD other)) :
    s.advance other f = { s with tally := t } := by
  unfold advance
  rw [h]
  cases hresolver : s.resolver with
  | none => rfl
  | some r => rfl

/-- A session that is given a record that is no event counts it, and is otherwise as before. -/
theorem serve_of_idle {s : Session} {raw : RawEvent} (h : raw.Idle s.family)
    (rule? : Option (CallSite → String)) :
    s.serve (.record rule? raw)
      = { s with tally := s.tally.countOnly (raw.share s.family == .malformed) } := by
  cases rule? with
  | none =>
      exact advance_eq (f := fun t r => t.record s.family r raw) (Tally.record_of_idle h s.tally _)
  | some rule =>
      show { s with tally := (s.tally.record s.family (.rule rule) raw).1 } = _
      rw [Tally.record_of_idle h]

/-- **Every record is accounted for once.**  Of a session that is new or was reset, and has been
given records and traces since, whatever they hold and by whatever rule it names callers:

* its records are all that came in, and they are its allocations, its releases, its malformed
  records and the records of events that its family does not have, each of these counts being the
  number of records of that share;
* a run adds to the records just what its trace kept;
* a record that is malformed or of another event is counted, and leaves the heap, the callers, the
  allocations, the releases, the unknown ones and the resolver as they were;
* so do all such records of a trace, wherever they stand in it. -/
theorem records_accounted (s : Session) (feeds : List Feed) :
    let raws := feeds.flatMap Feed.raws
    let t := (s.reset.after (feeds.map Feed.request)).tally
    (t.records = raws.length
        ∧ t.records = t.allocations + t.releases + t.malformed
          + raws.countP (!s.family.knows ·.event)
        ∧ t.allocations = raws.countP (·.share s.family == .allocation)
        ∧ t.releases = raws.countP (·.share s.family == .release)
        ∧ t.malformed = raws.countP (·.share s.family == .malformed))
      ∧ (∀ (u : Session) table trace,
          (u.run table trace).tally.records = u.tally.records + trace.kept.length)
      ∧ (∀ (u : Session) rule? raw, raw.Idle u.family →
          u.serve (.record rule? raw)
            = { u with tally := u.tally.countOnly (raw.share u.family == .malformed) })
      ∧ ∀ family (t : Tally) (r : Resolver) raws,
          let events := raws.filter fun raw => (raw.event? family).isSome
          (t.recordAll family r raws).1.core = (t.recordAll family r events).1.core
            ∧ (t.recordAll family r raws).2 = (t.recordAll family r events).2 := by
  intro raws t
  -- nothing is counted after a reset, and every feed adds its shares
  have hcounts : t.Accounts s.family raws :=
    accounts_after (s := s.reset) (Tally.accounts_start s.family) feeds
  refine ⟨⟨hcounts.records, hcounts.sum, hcounts.allocations, hcounts.releases,
    hcounts.malformed⟩, fun u table trace => ?_, fun u rule? raw hidle => ?_,
    fun family t r raws => ?_⟩
  · exact Tally.records_run_add u.family u.tally _ trace
  · exact serve_of_idle hidle rule?
  · exact Tally.recordAll_relevant rfl r raws

/-- A trace of both interfaces, a release of what is no address, and an allocation. -/
def mixedFeeds : List Feed :=
  [.run {} Tally.mixedRead, .record none addressless, .record none capitals]

/-- For object caches the trace has one record that counts and two of other events. -/
theorem accounted_mixedFeeds :
    let t := (({ family := .cache } : Session).reset.after (mixedFeeds.map Feed.request)).tally
    t.records = 5 ∧ t.allocations = 1 ∧ t.releases = 1 ∧ t.malformed = 1
      ∧ t.records = t.allocations + t.releases + t.malformed + 2
      ∧ ∀ u : Session, (u.run {} Tally.mixedRead).tally.records = u.tally.records + 3 := by
  intro t
  obtain ⟨⟨hrecords, hsum, hallocations, hreleases, hmalformed⟩, hrun, -, -⟩ :=
    records_accounted { family := .cache } mixedFeeds
  have hothers :
      (mixedFeeds.flatMap Feed.raws).countP (!Family.cache.knows ·.event) = 2 := by decide +kernel
  refine ⟨hrecords, hallocations.trans (by decide +kernel), hreleases.trans (by decide +kernel),
    hmalformed.trans (by decide +kernel), ?_, fun u => hrun u {} _⟩
  exact hsum.trans (congrArg _ hothers)

end Session

end SlabWaste
