/-
  SlabWaste.Proofs.Tally.Joining
  ──────────────────────────────
  **A RUN OVER A TRACE IN TWO PARTS.**

  A tally takes one written event after another, and what traces say of lost
  events it only adds up.  So a session ends in the same state whether it is given
  a trace at once or in two parts:

      recordAll_append           written events in two parts
      recordAll_noteLoss         … with a note of lost events between them
      recordAll_fst_of_naming    … or with another resolver for the second part
      Session.run_parts          traces
-/
import SlabWaste.Proofs.Tally.Requests
import SlabWaste.Proofs.Trace.Joining

namespace SlabWaste

open SlabWaste.Symbols

namespace Tally

/-! ## §1. Written events in two parts. -/

/-- Records may be taken in two parts. -/
theorem recordAll_append (family : Family) (t : Tally) (r : Resolver) (front back : List RawEvent) :
    t.recordAll family r (front ++ back)
      = (t.recordAll family r front).1.recordAll family (t.recordAll family r front).2 back := by
  unfold recordAll
  rw [List.foldl_append]

/-- The tally with what it knows of lost events changed. -/
def withLoss (t : Tally) (missed : Bool) (lost : Nat) : Tally := { t with missed, lost }

/-- What is known of lost events has no part in a movement, … -/
theorem apply_withLoss (t : Tally) (missed : Bool) (lost : Nat) (m : Movement) :
    (t.withLoss missed lost).apply m = (t.apply m).withLoss missed lost := by
  cases m with
  | allocate address caller bytes => rfl
  | release address =>
      cases h : t.heap.get? address with
      | none =>
          rw [apply_release_none h, apply_release_none (t := t.withLoss missed lost) h]
          rfl
      | some a =>
          rw [apply_release_some h, apply_release_some (t := t.withLoss missed lost) h]
          rfl

/-- … nor in what a record does. -/
theorem record_withLoss (family : Family) (t : Tally) (missed : Bool) (lost : Nat) (r : Resolver)
    (raw : RawEvent) :
    (t.withLoss missed lost).record family r raw
      = ((t.record family r raw).1.withLoss missed lost, (t.record family r raw).2) := by
  unfold record
  cases interpret family raw with
  | unrelated => rfl
  | malformed why => rfl
  | event e =>
      show ((Tally.withLoss { t with records := t.records + 1 } missed lost).apply (e.resolve r).1,
        (e.resolve r).2) = _
      rw [apply_withLoss]
      rfl

/-- What is known of lost events matters to no written event. -/
theorem recordAll_withLoss (family : Family) (t : Tally) (missed : Bool) (lost : Nat)
    (r : Resolver) (raws : List RawEvent) :
    (t.withLoss missed lost).recordAll family r raws
      = ((t.recordAll family r raws).1.withLoss missed lost, (t.recordAll family r raws).2) := by
  induction raws generalizing t r with
  | nil => rfl
  | cons raw raws ih => rw [recordAll_cons, recordAll_cons, record_withLoss, ih]

/-- Records say nothing of lost events. -/
theorem missed_lost_recordAll (family : Family) (t : Tally) (r : Resolver) (raws : List RawEvent) :
    (t.recordAll family r raws).1.missed = t.missed
      ∧ (t.recordAll family r raws).1.lost = t.lost := by
  have hsame := recordAll_withLoss family t t.missed t.lost r raws
  rw [show t.withLoss t.missed t.lost = t from rfl] at hsame
  rw [hsame]
  exact ⟨rfl, rfl⟩

/-- Where events are lost only if it is noted, the loss can be added in any case. -/
theorem noteLoss_eq (t : Tally) {missed : Bool} {lost : Nat} (h : missed = false → lost = 0) :
    t.noteLoss missed lost = t.withLoss (t.missed || missed) (t.lost + lost) := by
  cases missed with
  | true =>
      unfold noteLoss withLoss
      rw [if_pos rfl, Bool.or_true]
  | false =>
      unfold noteLoss withLoss
      rw [if_neg (by decide), h rfl, Bool.or_false]
      rfl

/-- **Lost events may be noted between two parts or after both.** -/
theorem recordAll_noteLoss (family : Family) (t : Tally) (r : Resolver) (raws : List RawEvent)
    {missed missed' : Bool} {lost lost' : Nat} (h : missed = false → lost = 0)
    (h' : missed' = false → lost' = 0) :
    ((t.noteLoss missed lost).recordAll family r raws).1.noteLoss missed' lost'
      = (t.recordAll family r raws).1.noteLoss (missed || missed') (lost + lost') := by
  have hboth : (missed || missed') = false → lost + lost' = 0 := by
    intro hnone
    rw [Bool.or_eq_false_iff] at hnone
    rw [h hnone.1, h' hnone.2]
  obtain ⟨hmissed, hlost⟩ := missed_lost_recordAll family t r raws
  rw [noteLoss_eq t h, recordAll_withLoss, noteLoss_eq _ h', noteLoss_eq _ hboth, hmissed, hlost]
  show Tally.withLoss _ _ _ = Tally.withLoss _ _ _
  rw [← Bool.or_assoc, ← Nat.add_assoc]
  rfl

/-! ## §2. Another resolver. -/

variable (family : Family) {q r : Resolver}

/-- A record does the same with resolvers that name callers alike. -/
theorem record_fst_of_naming (hq : q.Sound) (hr : r.Sound) (hsame : q.naming = r.naming)
    (t : Tally) (raw : RawEvent) : (t.record family q raw).1 = (t.record family r raw).1 := by
  unfold record
  cases interpret family raw with
  | unrelated => rfl
  | malformed why => rfl
  | event e =>
      show (Tally.process _ q e).1 = (Tally.process _ r e).1
      rw [process_fst hq, process_fst hr, hsame]

/-- **Sound resolvers with one rule give one tally**, whatever they were asked before. -/
theorem recordAll_fst_of_naming (hq : q.Sound) (hr : r.Sound) (hsame : q.naming = r.naming)
    (t : Tally) (raws : List RawEvent) :
    (t.recordAll family q raws).1 = (t.recordAll family r raws).1 := by
  induction raws generalizing t q r with
  | nil => rfl
  | cons raw raws ih =>
      have hq' := Moved.record hq family t raw
      have hr' := Moved.record hr family t raw
      have hnext : (t.record family q raw).2.naming = (t.record family r raw).2.naming := by
        rw [hq'.naming, hr'.naming, hsame]
      rw [recordAll_cons, recordAll_cons, record_fst_of_naming family hq hr hsame]
      exact ih hq'.sound hr'.sound hnext _

/-! ## §3. Traces. -/

variable {a b : Trace.Reader}

/-- The written events of a trace in two parts. -/
theorem raws_append (h : (a.append b).records = a.records ++ b.records.map (Record.behind a.seen)) :
    (a.append b).records.map (·.toRawEvent)
      = a.records.map (·.toRawEvent) ++ b.records.map (·.toRawEvent) := by
  rw [h, List.map_append, List.map_map]
  rfl

/-- A run over two parts, the second with the resolver that the first left. -/
theorem run_append (ha : a.LossNoted) (hb : b.LossNoted)
    (h : (a.append b).records = a.records ++ b.records.map (Record.behind a.seen)) (t : Tally)
    (r : Resolver) :
    (t.run family r a).1.run family (t.run family r a).2 b = t.run family r (a.append b) := by
  rw [run_eq, run_eq, run_eq, raws_append h, recordAll_append]
  refine Prod.ext (recordAll_noteLoss family _ _ _ ha hb) ?_
  rw [noteLoss_eq _ ha, recordAll_withLoss]

/-- A run over two parts, the second with the resolver that the first began with. -/
theorem run_append_anew (ha : a.LossNoted) (hb : b.LossNoted)
    (h : (a.append b).records = a.records ++ b.records.map (Record.behind a.seen)) (t : Tally)
    (hr : r.Sound) :
    ((t.run family r a).1.run family r b).1 = (t.run family r (a.append b)).1 := by
  have hfirst := Moved.run hr family t a
  rw [← run_append family ha hb h t r, run_eq, run_eq family _ (t.run family r a).2 b]
  rw [recordAll_fst_of_naming family hr hfirst.sound hfirst.naming.symm]

end Tally

namespace Session

/-- A session goes on with its own resolver, or with that of the trace. -/
theorem run_append {a b : Trace.Reader} (ha : a.LossNoted) (hb : b.LossNoted)
    (h : (a.append b).records = a.records ++ b.records.map (Record.behind a.seen)) (s : Session)
    (table : Table) : (s.run table a).run table b = s.run table (a.append b) := by
  obtain ⟨family, resolver, tally⟩ := s
  cases resolver with
  | none =>
      have hfresh : (Resolver.table (.fresh table)).Sound := Memo.sound_fresh table
      have htally := Tally.run_append_anew family ha hb h tally hfresh
      exact congrArg (Session.mk family none) htally
  | some r =>
      have hrun := Tally.run_append family ha hb h tally r
      exact congrArg (fun p : Tally × Resolver => Session.mk family (some p.2) p.1) hrun

/-- **A trace may be split.**  Where a file is cut after a line feed into two that can each be read,
where the records of each CPU are in order of time in both, and where none of the first is later
than one of the second, the file can be read too, and a session ends in the same state whether it
is given the one or the two, whatever it was before.  So do the report and the account. -/
theorem run_parts {fs : FileSystem} {first second whole : String} {front back : List UInt8}
    {keeps : List String} {a b : Trace.Reader} (hfirst : fs.read first = .ok front)
    (hsecond : fs.read second = .ok back) (hwhole : fs.read whole = .ok (front ++ back))
    (hend : front.getLast? = some 0x0A) (ha : Trace.load fs first keeps = .ok a)
    (hb : Trace.load fs second keeps = .ok b)
    (hatimes : ∀ c, (a.inFileOrder.filter (·.cpu == c)).Pairwise fun x y =>
      x.timestamp.le y.timestamp = true)
    (hbtimes : ∀ c, (b.inFileOrder.filter (·.cpu == c)).Pairwise fun x y =>
      x.timestamp.le y.timestamp = true)
    (hcut : ∀ x ∈ a.inFileOrder, ∀ y ∈ b.inFileOrder, x.timestamp.le y.timestamp = true) :
    ∃ c, Trace.load fs whole keeps = .ok c ∧ ∀ (s : Session) (table : Table),
      (s.run table a).run table b = s.run table c
        ∧ ((s.run table a).run table b).tally.report = (s.run table c).tally.report
        ∧ ((s.run table a).run table b).tally.account = (s.run table c).tally.account := by
  -- the whole is read as the parts one after the other, and its records are theirs in that order
  have hload := Trace.load_append hfirst hsecond hwhole hend ha hb
  have hrecords := Trace.records_append (Trace.sound_of_load ha) (Trace.sound_of_load hb)
    (Trace.sound_of_load hload) hatimes hbtimes hcut
  refine ⟨a.append b, hload, fun s table => ?_⟩
  have hsame := run_append (Trace.lossNoted_of_load ha) (Trace.lossNoted_of_load hb) hrecords s table
  rw [hsame]
  exact ⟨rfl, rfl, rfl⟩

/-- The first part of a trace: one CPU, and a loss. -/
def allocatingPart : List UInt8 :=
  "CPU:0 [LOST 2 EVENTS]
ld-1 [1] 1.5: kmalloc: call_site=f ptr=1 bytes_req=3 bytes_alloc=8
".toList.flatMap String.utf8EncodeChar

/-- The second part: another CPU at the same time, and another loss. -/
def releasingPart : List UInt8 :=
  "sh-2 [0] 1.5: kfree: ptr=1
CPU:1 [LOST 3 EVENTS]
".toList.flatMap String.utf8EncodeChar

/-- A file system with the two parts and the whole. -/
def partFiles : FileSystem where
  read path := .ok (
    if path = "first" then allocatingPart
    else if path = "second" then releasingPart else allocatingPart ++ releasingPart)
  refusal? _ := none

/-- The reader that has read the first part. -/
def allocatingRead : Trace.Reader where
  keeps := Family.all.eventNames
  seen := 1
  kept :=
    [{ event := "kmalloc",
       fields := [("call_site", "f"), ("ptr", "1"), ("bytes_req", "3"), ("bytes_alloc", "8")],
       cpu := 1, timestamp := .finite (3 / 2), task := "ld", pid := 1, seq := 0 }]
  missed := true
  lost := 2

/-- The reader that has read the second part. -/
def releasingRead : Trace.Reader where
  keeps := Family.all.eventNames
  seen := 1
  kept :=
    [{ event := "kfree", fields := [("ptr", "1")], cpu := 0, timestamp := .finite (3 / 2),
       task := "sh", pid := 2, seq := 0 }]
  missed := true
  lost := 3

/-- At the cut the release is not later than the allocation and stands for a CPU with a lower
number, and still it finds it in the whole. -/
theorem run_twoParts :
    ∃ c, Trace.load partFiles "whole" Family.all.eventNames = .ok c
      ∧ (({} : Session).run {} c).tally.unknown = 0 ∧ (({} : Session).run {} c).tally.lost = 5 := by
  have hfirst : Trace.load partFiles "first" Family.all.eventNames = .ok allocatingRead := by
    decide +kernel
  have hsecond : Trace.load partFiles "second" Family.all.eventNames = .ok releasingRead := by
    decide +kernel
  have hatimes : ∀ c, (allocatingRead.inFileOrder.filter (·.cpu == c)).Pairwise fun x y =>
      x.timestamp.le y.timestamp = true := fun c => List.Pairwise.filter _ (by decide +kernel)
  have hbtimes : ∀ c, (releasingRead.inFileOrder.filter (·.cpu == c)).Pairwise fun x y =>
      x.timestamp.le y.timestamp = true := fun c => List.Pairwise.filter _ (by decide +kernel)
  have hread : partFiles.read "whole" = .ok (allocatingPart ++ releasingPart) := rfl
  obtain ⟨c, hload, hsame⟩ := run_parts rfl rfl hread (by decide +kernel) hfirst hsecond hatimes
    hbtimes (by decide +kernel)
  obtain ⟨hstate, -, -⟩ := hsame {} {}
  -- a part with one record has but one order
  have harecords : allocatingRead.records = allocatingRead.inFileOrder :=
    List.perm_singleton.mp (Trace.Reader.records_perm (Trace.sound_of_load hfirst))
  have hbrecords : releasingRead.records = releasingRead.inFileOrder :=
    List.perm_singleton.mp (Trace.Reader.records_perm (Trace.sound_of_load hsecond))
  have htally : (({} : Session).run {} c).tally
      = ((Tally.run .all {} (.table (.fresh {})) allocatingRead).1.run .all (.table (.fresh {}))
          releasingRead).1 := by
    rw [← hstate]
    rfl
  rw [Tally.run_eq, Tally.run_eq, harecords, hbrecords] at htally
  refine ⟨c, hload, ?_, ?_⟩
  · rw [htally]
    decide +kernel
  · rw [htally]
    decide +kernel

end Session

end SlabWaste
