/-
  SlabWaste.Proofs.Tally.Filtering
  ────────────────────────────────
  **CHOOSING WHILE READING, OR WHILE COUNTING.**

  A run that looks at one family may read a trace for that family only, or read
  it for both and let the tally pass over what does not concern it.  The tally
  ends up the same, but for the number of written events that it looked at:

      record_of_not_knows    an event of another family is counted, no more
      recordAll_filter       … and so are all of them, wherever they stand
      run_narrow             one trace, read in either way
-/
import Mathlib.Data.List.Count
import SlabWaste.Proofs.Tally.Process
import SlabWaste.Proofs.Trace.Keeping

namespace SlabWaste

open SlabWaste.Symbols

/-! ## §1. The names of a family. -/

namespace Family

/-- The names that a family keeps are those that it knows. -/
theorem contains_eventNames (family : Family) (name : String) :
    family.eventNames.contains name = family.knows name := by
  unfold eventNames knows kind?
  induction family.events with
  | nil => rfl
  | cons x xs ih =>
      obtain ⟨key, kind⟩ := x
      rw [List.map_cons, List.contains_cons, List.lookup_cons, ih]
      by_cases h : (name == key) = true
      · simp only [h, Bool.true_or, Option.isSome_some]
      · simp only [h, Bool.false_or]

/-- What one family has, both together have. -/
theorem mem_eventNames_all (family : Family) {name : String} (h : name ∈ family.eventNames) :
    name ∈ Family.all.eventNames := by
  have hall : Family.all.eventNames = Family.malloc.eventNames ++ Family.cache.eventNames := rfl
  cases family with
  | all => exact h
  | malloc =>
      rw [hall]
      exact List.mem_append_left _ h
  | cache =>
      rw [hall]
      exact List.mem_append_right _ h

end Family

namespace Tally

/-! ## §2. What the tally passes over. -/

/-- An event that the family does not have is looked at, and that is all. -/
theorem record_of_not_knows {family : Family} {raw : RawEvent}
    (h : family.knows raw.event = false) (t : Tally) (r : Resolver) :
    t.record family r raw = ({ t with records := t.records + 1 }, r) := by
  have hnone : family.kind? raw.event = none := by
    unfold Family.knows at h
    exact Option.not_isSome_iff_eq_none.mp (Bool.eq_false_iff.mp h)
  unfold record interpret
  simp only [hnone]

/-- How many events were looked at before does not matter to the account of one. -/
theorem record_with_records (family : Family) (t : Tally) (r : Resolver) (raw : RawEvent)
    (n : Nat) :
    ({ t with records := n } : Tally).record family r raw
      = ({ (t.record family r raw).1 with records := n + 1 }, (t.record family r raw).2) := by
  unfold record
  cases interpret family raw with
  | unrelated => rfl
  | malformed why => rfl
  | event e =>
      show (Tally.apply { t with records := n + 1 } (e.resolve r).1, (e.resolve r).2)
        = ({ Tally.apply { t with records := t.records + 1 } (e.resolve r).1 with
              records := n + 1 }, (e.resolve r).2)
      rw [apply_with_records t (n + 1), apply_with_records t (t.records + 1)]

/-- Every record is counted, known or not. -/
theorem records_record (family : Family) (t : Tally) (r : Resolver) (raw : RawEvent) :
    (t.record family r raw).1.records = t.records + 1 :=
  congrArg (·.1.records) (record_with_records family t r raw t.records)

theorem recordAll_cons (family : Family) (t : Tally) (r : Resolver) (raw : RawEvent)
    (raws : List RawEvent) :
    t.recordAll family r (raw :: raws)
      = (t.record family r raw).1.recordAll family (t.record family r raw).2 raws := rfl

/-- How many were counted before has no part in the rest. -/
theorem recordAll_with_records (family : Family) (raws : List RawEvent) (t : Tally)
    (r : Resolver) (n : Nat) :
    ({ t with records := n } : Tally).recordAll family r raws
      = ({ (t.recordAll family r raws).1 with records := n + raws.length },
          (t.recordAll family r raws).2) := by
  induction raws generalizing t r n with
  | nil => rfl
  | cons raw raws ih =>
      rw [recordAll_cons, recordAll_cons, record_with_records, ih]
      rw [List.length_cons, Nat.add_assoc, Nat.add_comm 1]

/-- As many are counted as there are. -/
theorem records_recordAll (family : Family) (t : Tally) (r : Resolver) (raws : List RawEvent) :
    (t.recordAll family r raws).1.records = t.records + raws.length :=
  congrArg (·.1.records) (recordAll_with_records family raws t r t.records)

/-- **The events of other families may be left out before the tally sees them**: the tally and the
answers of the resolver are the same, and only the events looked at are fewer. -/
theorem recordAll_filter (family : Family) (raws : List RawEvent) (t : Tally) (r : Resolver) :
    t.recordAll family r raws
      = ({ (t.recordAll family r (raws.filter (family.knows ·.event))).1 with
            records := t.records + raws.length },
          (t.recordAll family r (raws.filter (family.knows ·.event))).2) := by
  induction raws generalizing t r with
  | nil => rfl
  | cons raw raws ih =>
      rw [recordAll_cons]
      have hlength : t.records + 1 + raws.length = t.records + (raw :: raws).length := by
        rw [List.length_cons]
        omega
      by_cases h : family.knows raw.event = true
      · rw [List.filter_cons_of_pos (p := fun raw : RawEvent => family.knows raw.event) h,
          recordAll_cons, ih, records_record, hlength]
      · -- the event counts at once what it would have counted in the end
        rw [List.filter_cons_of_neg (p := fun raw : RawEvent => family.knows raw.event) h,
          record_of_not_knows (Bool.eq_false_iff.mpr h), ih, recordAll_with_records, hlength]

/-! ## §3. One trace, read in either way. -/

/-- A run takes over all records of a trace, and then what it says of lost events. -/
theorem run_eq (family : Family) (t : Tally) (r : Resolver) (trace : Trace.Reader) :
    t.run family r trace
      = ((t.recordAll family r (trace.records.map (·.toRawEvent))).1.noteLoss trace.missed
            trace.lost,
          (t.recordAll family r (trace.records.map (·.toRawEvent))).2) := rfl

/-- A note of lost events has no part in the count of records. -/
theorem noteLoss_with_records (t : Tally) (n : Nat) (missed : Bool) (lost : Nat) :
    ({ t with records := n } : Tally).noteLoss missed lost
      = { t.noteLoss missed lost with records := n } := by
  cases missed with
  | true => rfl
  | false => rfl

/-- A run counts the records of its trace. -/
theorem records_run (family : Family) (r : Resolver) (trace : Trace.Reader) :
    (Tally.run family {} r trace).1.records = trace.records.length := by
  have hall := records_recordAll family {} r (trace.records.map (·.toRawEvent))
  rw [List.length_map, Nat.zero_add] at hall
  rw [run_eq, ← hall]
  cases trace.missed with
  | true => rfl
  | false => rfl

/-- The records that a family does not have may be left out of a trace. -/
theorem run_of_records_eq {narrow wide : Trace.Reader} (family : Family) (r : Resolver)
    (hrecords : narrow.records = wide.records.filter (family.knows ·.event))
    (hmissed : narrow.missed = wide.missed) (hlost : narrow.lost = wide.lost) :
    Tally.run family {} r wide
      = ({ (Tally.run family {} r narrow).1 with records := wide.records.length },
          (Tally.run family {} r narrow).2) := by
  have hraws : narrow.records.map (·.toRawEvent)
      = (wide.records.map (·.toRawEvent)).filter (family.knows ·.event) := by
    rw [hrecords, List.filter_map]
    rfl
  rw [run_eq, run_eq, recordAll_filter family (wide.records.map _), ← hraws, hmissed, hlost,
    noteLoss_with_records, List.length_map, Nat.zero_add]

/-- **Reading a trace for one family only, or for both and passing over the rest, makes one
difference**: the written events of the other family are looked at, or not. -/
theorem run_narrow {fs : FileSystem} {path : String} {family : Family}
    {narrow wide : Trace.Reader} (hnarrow : Trace.load fs path family.eventNames = .ok narrow)
    (hwide : Trace.load fs path Family.all.eventNames = .ok wide)
    (htimes : ∀ c, (wide.stream c).Pairwise fun a b => a.timestamp.le b.timestamp = true)
    (r : Resolver) :
    let t := Tally.run family {} r narrow
    let u := Tally.run family {} r wide
    u.1 = { t.1 with
        records := t.1.records + wide.inFileOrder.countP (!family.knows ·.event) }
      ∧ u.2 = t.2 ∧ u.1.report = t.1.report ∧ u.1.account = t.1.account := by
  intro t u
  have hsound := Trace.sound_of_load hwide
  have heq : narrow = wide.narrow family.eventNames := by
    have hload := Trace.load_narrow (fun name => family.mem_eventNames_all) hwide
    rw [hnarrow] at hload
    injection hload
  have hrecords : narrow.records = wide.records.filter (family.knows ·.event) := by
    have hsame := Trace.Reader.records_narrow hsound (heq ▸ Trace.sound_of_load hnarrow) htimes
    rw [heq, hsame]
    simp only [family.contains_eventNames]
  -- the records are those that the family has, and the others
  have hlength : wide.records.length
      = narrow.records.length + wide.inFileOrder.countP (!family.knows ·.event) := by
    rw [hrecords, ← (Trace.Reader.records_perm hsound).countP_eq, ← List.countP_eq_length_filter,
      List.length_eq_countP_add_countP (family.knows ·.event)]
    simp only [Bool.not_eq_true, Bool.decide_eq_false]
  have hrun : u = ({ t.1 with records := wide.records.length }, t.2) :=
    run_of_records_eq family r hrecords (by rw [heq]; rfl) (by rw [heq]; rfl)
  have hcount : t.1.records = narrow.records.length := records_run family r narrow
  rw [hrun, hcount, ← hlength]
  exact ⟨rfl, rfl, rfl, rfl⟩

/-- A file in which one of two CPUs uses both interfaces. -/
def mixedFile : FileSystem where
  read _ := .ok ("ld-7 [1] 1.5: kmem_cache_free: ptr=1
ld-7 [1] 2.5: kmalloc: ptr=2 call_site=f bytes_req=3 bytes_alloc=8
sh-8 [0] 3.0: kfree: ptr=2
".toList.flatMap String.utf8EncodeChar)
  refusal? _ := none

/-- The reader that has read it for both interfaces. -/
def mixedRead : Trace.Reader where
  keeps := Family.all.eventNames
  seen := 3
  kept :=
    [{ event := "kfree", fields := [("ptr", "2")], cpu := 0, timestamp := .finite 3,
       task := "sh", pid := 8, seq := 2 },
     { event := "kmalloc",
       fields := [("ptr", "2"), ("call_site", "f"), ("bytes_req", "3"), ("bytes_alloc", "8")],
       cpu := 1, timestamp := .finite (5 / 2), task := "ld", pid := 7, seq := 1 },
     { event := "kmem_cache_free", fields := [("ptr", "1")], cpu := 1,
       timestamp := .finite (3 / 2), task := "ld", pid := 7, seq := 0 }]

/-- Read for general-purpose memory only, the file gives the same tally from two of the three
records. -/
theorem run_narrow_mixedFile :
    let t := Tally.run .malloc {} (.table (.fresh {})) (mixedRead.narrow Family.malloc.eventNames)
    let u := Tally.run .malloc {} (.table (.fresh {})) mixedRead
    Trace.load mixedFile "trace" Family.malloc.eventNames
        = .ok (mixedRead.narrow Family.malloc.eventNames)
      ∧ Trace.load mixedFile "trace" Family.all.eventNames = .ok mixedRead
      ∧ u.1.heap = t.1.heap ∧ u.1.callers = t.1.callers ∧ u.1.records = t.1.records + 1
      ∧ u.1.report = t.1.report := by
  intro t u
  have hwide : Trace.load mixedFile "trace" Family.all.eventNames = .ok mixedRead :=
    Trace.eq_ok_of_toOption (by decide +kernel)
  have hnarrow : Trace.load mixedFile "trace" Family.malloc.eventNames
      = .ok (mixedRead.narrow Family.malloc.eventNames) :=
    Trace.load_narrow (fun name => Family.malloc.mem_eventNames_all) hwide
  have htimes : ∀ c, (mixedRead.stream c).Pairwise fun a b =>
      a.timestamp.le b.timestamp = true := by
    apply Trace.Reader.pairwise_stream
    decide +kernel
  -- one record of the file belongs to the other family
  have hcount : mixedRead.inFileOrder.countP (!Family.malloc.knows ·.event) = 1 := by
    decide +kernel
  obtain ⟨htally, -, hreport, -⟩ := run_narrow hnarrow hwide htimes (.table (.fresh {}))
  rw [hcount] at htally
  have htally : u.1 = { t.1 with records := t.1.records + 1 } := htally
  refine ⟨hnarrow, hwide, ?_, ?_, ?_, hreport⟩
  all_goals rw [htally]

end Tally

end SlabWaste
