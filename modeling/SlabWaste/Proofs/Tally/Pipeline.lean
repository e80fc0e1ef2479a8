/-
  SlabWaste.Proofs.Tally.Pipeline
  ───────────────────────────────
  **FROM A FILE TO A TALLY.**

  Buffers are written out one CPU after the other, or in time order, or in any
  way in between.  As long as the lines of each CPU, and the lines of each time,
  keep their order, the file says the same:

      map_mark_records    merging restores the script
      ofTrace_script      the tally of the file is that of the script
-/
import SlabWaste.Proofs.Tally.Process
import SlabWaste.Proofs.Trace.Script
import SlabWaste.Proofs.Trace.Timeline

namespace SlabWaste.Trace

open SlabWaste.Symbols SlabWaste.Text

/-! ## §1. Files in another order. -/

/-- A file has the lines of a script in an order that keeps those of each CPU, and those of each
time, as the script has them. -/
structure Arranged (es file : List Item) : Prop where
  of_cpu : ∀ c, file.filter (·.cpu == c) = es.filter (·.cpu == c)
  of_time : ∀ t, file.filter (·.time == t) = es.filter (·.time == t)

/-- The file has each line of the script as often as the script. -/
theorem Arranged.perm {es file : List Item} (h : Arranged es file) : file.Perm es :=
  perm_of_ties h.of_cpu

/-- Neighbours of two CPUs and two times may change places. -/
theorem arranged_swap (xs ys : List Item) {a b : Item} (hcpu : a.cpu ≠ b.cpu)
    (htime : a.time ≠ b.time) : Arranged (xs ++ a :: b :: ys) (xs ++ b :: a :: ys) := by
  constructor
  · intro c
    by_cases ha : a.cpu = c
    · have hb : ¬ b.cpu = c := fun hb => hcpu (ha.trans hb.symm)
      simp [ha, hb]
    · simp [List.filter_cons, ha]
  · intro t
    by_cases ha : a.time = t
    · have hb : ¬ b.time = t := fun hb => htime (ha.trans hb.symm)
      simp [ha, hb]
    · simp [List.filter_cons, ha]

/-! ## §2. What a record says, but for its place. -/

/-- The CPU, the time and the event of a record. -/
def mark (r : Record) : Nat × Binary64 × RawEvent := (r.cpu, r.timestamp, r.toRawEvent)

/-- The same of an item, the event as it is written. -/
def Item.mark (e : Item) : Nat × Binary64 × RawEvent := (e.cpu, e.time, ⟨e.name, e.fields⟩)

/-- Wherever its line stands, a record is marked as its item is. -/
theorem map_mark_placed (n : Nat) (es : List Item) :
    (placed n es).map mark = es.map Item.mark := by
  induction es generalizing n with
  | nil => rfl
  | cons e es ih =>
      show mark (e.record n) :: (placed (n + 1) es).map mark = _
      rw [ih]
      rfl

/-- What holds of the mark of a record or an item can be asked before or after marking. -/
theorem filter_map_mark {α : Type*} (f : α → Nat × Binary64 × RawEvent)
    (p : Nat × Binary64 × RawEvent → Bool) (xs : List α) :
    (xs.map f).filter p = (xs.filter fun x => p (f x)).map f := List.filter_map

/-- What the mark of an item says is its event. -/
theorem interpret_mark (e : Item) : interpret .all e.mark.2.2 = .event e.event :=
  e.interpret_record 0

/-! ## §3. Merging. -/

variable {es file : List Item}

/-- The records of one CPU are in order of time, as the script is. -/
theorem pairwise_stream (h : Arranged es file)
    (htimes : es.Pairwise fun a b => a.time.le b.time = true) (c : Nat) :
    ((scriptRead file).stream c).Pairwise fun a b => a.timestamp.le b.timestamp = true := by
  have hmarks : ((scriptRead file).stream c).map mark = (es.filter (·.cpu == c)).map Item.mark :=
    calc ((scriptRead file).stream c).map mark
        = ((placed 0 file).map mark).filter (·.1 == c) := by
          rw [filter_map_mark, ← inFileOrder_scriptRead]
          rfl
      _ = (file.filter (·.cpu == c)).map Item.mark := by
          rw [map_mark_placed, filter_map_mark]
          rfl
      _ = (es.filter (·.cpu == c)).map Item.mark := by rw [h.of_cpu c]
  have hsorted : ((es.filter (·.cpu == c)).map Item.mark).Pairwise fun a b =>
      a.2.1.le b.2.1 = true := List.pairwise_map.mpr (htimes.filter _)
  rw [← hmarks] at hsorted
  exact List.pairwise_map.mp hsorted

/-- **Merging restores the script.** -/
theorem map_mark_records (h : Arranged es file)
    (htimes : es.Pairwise fun a b => a.time.le b.time = true)
    (hsound : (scriptRead file).Sound) :
    (scriptRead file).records.map mark = es.map Item.mark := by
  have hsorted := (Reader.pairwise_records_iff hsound).mpr (pairwise_stream h htimes)
  apply @eq_of_ties _ _ _ (·.2.1) Binary64.le (fun a b => Binary64.le_antisymm)
  · exact List.pairwise_map.mpr (Reader.pairwise_timestamp_of_before hsorted)
  · exact List.pairwise_map.mpr htimes
  · intro t
    -- both sides are the lines of that time, as the file has them
    have hfile := Reader.filter_timestamp_records hsound hsorted t
    rw [inFileOrder_scriptRead] at hfile
    calc ((scriptRead file).records.map mark).filter (·.2.1 == t)
        = ((placed 0 file).filter (·.timestamp == t)).map mark := by
          rw [filter_map_mark, ← hfile]
          rfl
      _ = ((placed 0 file).map mark).filter (·.2.1 == t) := by
          rw [filter_map_mark]
          rfl
      _ = (file.filter (·.time == t)).map Item.mark := by
          rw [map_mark_placed, filter_map_mark]
          rfl
      _ = (es.map Item.mark).filter (·.2.1 == t) := by
          rw [h.of_time, filter_map_mark]
          rfl

/-! ## §4. The tally. -/

/-- The tally of the reader is that of the events, and every record is counted. -/
theorem ofTrace_scriptRead (h : Arranged es file)
    (htimes : es.Pairwise fun a b => a.time.le b.time = true)
    (hsound : (scriptRead file).Sound) :
    Tally.ofTrace .all {} (scriptRead file)
      = { (({} : Session).processAll (es.map Item.event)).tally with records := es.length } := by
  -- of the marks only the events count from here on
  have hraws : (scriptRead file).records.map (·.toRawEvent) = es.map fun e => e.mark.2.2 := by
    have hmarks := congrArg (List.map (·.2.2)) (map_mark_records h htimes hsound)
    rw [List.map_map, List.map_map] at hmarks
    exact hmarks
  have hread : (es.map fun e => e.mark.2.2).map (interpret .all)
      = (es.map Item.event).map .event := by
    rw [List.map_map, List.map_map]
    exact List.map_congr_left fun e _ => interpret_mark e
  have hresolver : (Resolver.table (.fresh {})).Sound := Memo.sound_fresh {}
  have hnaming : (Resolver.table (.fresh {})).naming = ({} : Session).naming := Table.caller_empty
  have hsession := Session.tally_processAll (s := {}) Resolver.sound_plain (es.map Item.event)
  show (Tally.recordAll .all {} (.table (.fresh {}))
    ((scriptRead file).records.map (·.toRawEvent))).1 = _
  rw [hraws, Tally.recordAll_fst .all (es.map Item.event) _ {} _ hresolver hread, hnaming, hsession]
  simp

/-- **The whole way from a file to a tally.**  A script in order of time is written to a file, in
any order that keeps the lines of each CPU and the lines of each time as they are.  Then the file
can be read, and its tally is what the events give one after the other: the same heap, the same
callers with the same figures, the same counts.  Every line is counted, none is malformed, and
nothing was missed. -/
theorem ofTrace_script {fs : FileSystem} {path : String} (hne : es ≠ [])
    (htimes : es.Pairwise fun a b => a.time.le b.time = true) (h : Arranged es file)
    (hfile : fs.read path = .ok (Utf8.encode (file.flatMap Item.line))) :
    ∃ r, load fs path Family.all.eventNames = .ok r
      ∧ let t := Tally.ofTrace .all {} r
        let s := (({} : Session).processAll (es.map Item.event)).tally
        t.heap = s.heap ∧ t.callers = s.callers ∧ t.allocations = s.allocations
          ∧ t.releases = s.releases ∧ t.unknown = s.unknown ∧ t.records = es.length
          ∧ t.malformed = 0 ∧ t.missed = false := by
  have hlines : file ≠ [] := by
    intro hnil
    have hperm := h.perm
    rw [hnil] at hperm
    exact hne hperm.nil_eq.symm
  have hload := load_script hlines hfile
  refine ⟨scriptRead file, hload, ?_⟩
  have htally := ofTrace_scriptRead h htimes (sound_of_load hload)
  -- events alone make nothing malformed, and no script tells of a loss
  have hframe := Tally.foldl_apply_frame
    ((es.map Item.event).map (Event.named ({} : Session).naming)) {}
  rw [← Session.tally_processAll (s := {}) Resolver.sound_plain] at hframe
  obtain ⟨-, hmalformed, hmissed, -⟩ := hframe
  intro t s
  have ht : t = { s with records := es.length } := htally
  rw [ht]
  exact ⟨rfl, rfl, rfl, rfl, rfl, rfl, hmalformed, hmissed⟩

/-- What two CPUs get each gives back on the other, at the same time. -/
def crossed : List Item :=
  [.atSecond 1 0 0x1000 (.allocate "alloc_inode+0x4f/0x90" 8 8) (by decide),
    .atSecond 2 1 0x2000 (.allocate "__d_alloc+0x22/0x1a0" 10 16) (by decide),
    .atSecond 3 0 0x2000 .release trivial, .atSecond 3 1 0x1000 .release trivial]

/-- The same with its second and third line swapped, so that one CPU stands before the other. -/
def crossedLines : List Item := crossed.take 1 ++ crossed[2] :: crossed[1] :: crossed.drop 3

def crossedFile : FileSystem where
  read _ := .ok (Utf8.encode (crossedLines.flatMap Item.line))
  refusal? _ := none

/-- In the file an allocation stands after its release, and still nothing is unknown. -/
theorem ofTrace_crossed :
    ∃ r, load crossedFile "trace" Family.all.eventNames = .ok r
      ∧ let t := Tally.ofTrace .all {} r
        t.unknown = 0 ∧ t.releases = 2 ∧ t.records = 4 ∧ t.malformed = 0 ∧ t.missed = false
          ∧ t.heap.get? 0x2000 = none ∧ (usageOf "__d_alloc" t.callers.rows).peak = ⟨16, 10⟩
          ∧ (usageOf "__d_alloc" t.callers.rows).current = ⟨0, 0⟩ := by
  have htimes : crossed.Pairwise fun a b => a.time.le b.time = true := by decide +kernel
  -- two records of two CPUs have changed places in the file
  have harranged : Arranged crossed crossedLines :=
    arranged_swap (crossed.take 1) (crossed.drop 3) (by decide) (by decide +kernel)
  have hfile : crossedFile.read "trace" = .ok (Utf8.encode (crossedLines.flatMap Item.line)) := rfl
  obtain ⟨r, hload, hheap, hcallers, -, hreleases, hunknown, hrecords, hmalformed, hmissed⟩ :=
    ofTrace_script (List.cons_ne_nil _ _) htimes harranged hfile
  refine ⟨r, hload, hunknown.trans (by decide), hreleases.trans (by decide), hrecords, hmalformed,
    hmissed, ?_, ?_, ?_⟩
  · rw [hheap]
    decide
  · rw [hcallers]
    decide
  · rw [hcallers]
    decide

end SlabWaste.Trace
