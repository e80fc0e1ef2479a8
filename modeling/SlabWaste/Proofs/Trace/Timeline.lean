/-
  SlabWaste.Proofs.Trace.Timeline
  ───────────────────────────────
  **THE RECORDS OF ALL CPUS, IN ONE LINE.**

  `Record.before` puts records in order by time, and records of equal times by
  their places in the file.  The records of a reader are those of its CPUs merged
  by that order, and since no two kept records have the same place the merge
  leaves nothing open:

      records_perm             every kept record comes out once
      filter_cpu_records       those of one CPU in file order
      pairwise_records_iff     all in order just when each CPU was
      records_eq_mergeSort     and then as sorting by time gives them
      records_of_reached       all of it, for whatever a reader was given
-/
import SlabWaste.Proofs.Number.Order
import SlabWaste.Proofs.Trace.Merge
import SlabWaste.Proofs.Trace.Reached
import SlabWaste.Trace.Order

namespace SlabWaste

/-! ## §1. The order of records. -/

namespace Record

/-- One record comes before another if its time does, or at the same time if its place in the file
does. -/
theorem before_iff (a b : Record) :
    a.before b = true ↔ a.timestamp.le b.timestamp = true
      ∧ (a.timestamp = b.timestamp → a.seq ≤ b.seq) := by
  unfold before
  by_cases h : a.timestamp = b.timestamp
  · rw [if_pos h, decide_eq_true_eq, h]
    exact ⟨fun hseq => ⟨Binary64.le_refl _, fun _ => hseq⟩, fun hle => hle.2 rfl⟩
  · rw [if_neg h]
    exact ⟨fun hle => ⟨hle, fun heq => absurd heq h⟩, fun hle => hle.1⟩

theorem before_total (a b : Record) : a.before b = true ∨ b.before a = true := by
  rw [before_iff, before_iff]
  by_cases h : a.timestamp = b.timestamp
  · rw [h]
    have hrefl := Binary64.le_refl b.timestamp
    rcases Nat.le_total a.seq b.seq with hseq | hseq
    · exact Or.inl ⟨hrefl, fun _ => hseq⟩
    · exact Or.inr ⟨hrefl, fun _ => hseq⟩
  · rcases Binary64.le_total a.timestamp b.timestamp with hle | hle
    · exact Or.inl ⟨hle, fun heq => absurd heq h⟩
    · exact Or.inr ⟨hle, fun heq => absurd heq.symm h⟩

theorem before_trans (a b c : Record) (hab : a.before b = true) (hbc : b.before c = true) :
    a.before c = true := by
  rw [before_iff] at hab hbc ⊢
  refine ⟨Binary64.le_trans hab.1 hbc.1, ?_⟩
  intro hac
  -- equal ends leave no room for another time between them
  have hab' : a.timestamp = b.timestamp := by
    apply Binary64.le_antisymm hab.1
    rw [hac]
    exact hbc.1
  have hbc' : b.timestamp = c.timestamp := by rw [← hab', hac]
  exact Nat.le_trans (hab.2 hab') (hbc.2 hbc')

/-- Only a record at the same place comes neither before nor after another one. -/
theorem seq_eq_of_before {a b : Record} (hab : a.before b = true) (hba : b.before a = true) :
    a.seq = b.seq := by
  rw [before_iff] at hab hba
  have htime := Binary64.le_antisymm hab.1 hba.1
  have h₁ := hab.2 htime
  have h₂ := hba.2 htime.symm
  omega

end Record

namespace Trace

theorem nodup_eraseDups {α : Type*} [BEq α] [LawfulBEq α] (xs : List α) :
    xs.eraseDups.Nodup := by
  -- each element kept takes its equals out of what is left, so the induction is on the length
  generalize hn : xs.length = n
  induction n using Nat.strongRecOn generalizing xs with
  | ind n ih =>
      cases xs with
      | nil => exact List.nodup_nil
      | cons x xs =>
          rw [List.eraseDups_cons, List.nodup_cons]
          have hlength := List.length_filter_le (fun b => !b == x) xs
          constructor
          · rw [List.mem_eraseDups, List.mem_filter]
            simp
          · apply ih _ _ _ rfl
            rw [← hn, List.length_cons]
            omega

namespace Reader

/-! ## §2. The streams. -/

theorem nodup_cpus (r : Reader) : r.cpus.Nodup :=
  (List.mergeSort_perm _ _).nodup_iff.mpr (nodup_eraseDups _)

theorem mem_cpus (r : Reader) (c : Nat) : c ∈ r.cpus ↔ ∃ a ∈ r.inFileOrder, a.cpu = c := by
  unfold cpus inFileOrder
  rw [List.mem_mergeSort, List.mem_eraseDups, List.mem_map]
  simp only [List.mem_reverse]

/-- A stream has the records of its CPU. -/
theorem mem_stream (r : Reader) (c : Nat) (a : Record) :
    a ∈ r.stream c ↔ a ∈ r.inFileOrder ∧ a.cpu = c := by
  unfold stream
  rw [List.mem_filter, beq_iff_eq]

/-- What holds of any two records of one CPU holds within the stream of each. -/
theorem pairwise_stream {R : Record → Record → Prop} {r : Reader}
    (h : r.inFileOrder.Pairwise fun a b => a.cpu = b.cpu → R a b) (c : Nat) :
    (r.stream c).Pairwise R := by
  apply (h.sublist List.filter_sublist).imp_of_mem
  intro a b ha hb hab
  exact hab (((r.mem_stream c a).mp ha).2.trans ((r.mem_stream c b).mp hb).2.symm)

/-- A stream is empty if its CPU has no records. -/
theorem stream_eq_nil (r : Reader) {c : Nat} (h : c ∉ r.cpus) : r.stream c = [] := by
  rw [mem_cpus] at h
  rw [List.eq_nil_iff_forall_not_mem]
  intro a ha
  rw [mem_stream] at ha
  exact h ⟨a, ha⟩

/-- Each record is in some stream. -/
theorem mem_flatten_streams (r : Reader) (a : Record) :
    a ∈ r.streams.flatten ↔ a ∈ r.inFileOrder := by
  unfold streams
  rw [← List.flatMap_def, List.mem_flatMap]
  constructor
  · rintro ⟨c, -, ha⟩
    exact ((r.mem_stream c a).mp ha).1
  · intro ha
    exact ⟨a.cpu, (r.mem_cpus a.cpu).mpr ⟨a, ha, rfl⟩, (r.mem_stream a.cpu a).mpr ⟨ha, rfl⟩⟩

/-- No record is kept twice, … -/
theorem Sound.nodup {r : Reader} (h : r.Sound) : r.inFileOrder.Nodup :=
  h.ascending.imp fun hseq heq => by
    rw [heq] at hseq
    omega

/-- … and none is in two streams. -/
theorem Sound.nodup_streams {r : Reader} (h : r.Sound) : r.streams.flatten.Nodup := by
  rw [List.nodup_flatten]
  constructor
  · intro s hs
    obtain ⟨c, -, rfl⟩ := List.mem_map.mp hs
    exact h.nodup.filter _
  · unfold streams
    rw [List.pairwise_map]
    apply r.nodup_cpus.imp
    intro c d hcd a hc hd
    rw [mem_stream] at hc hd
    exact hcd (hc.2.symm.trans hd.2)

/-- The streams together have the records of the file. -/
theorem Sound.perm_streams {r : Reader} (h : r.Sound) :
    r.streams.flatten.Perm r.inFileOrder :=
  (List.perm_ext_iff_of_nodup h.nodup_streams h.nodup).mpr r.mem_flatten_streams

/-! ## §3. What comes out. -/

theorem records_eq_mergeAll (r : Reader) : r.records = mergeAll Record.before r.streams := rfl

/-- **No record is lost or doubled by merging.** -/
theorem records_perm {r : Reader} (h : r.Sound) : r.records.Perm r.inFileOrder :=
  (mergeAll_perm Record.before r.streams).trans h.perm_streams

/-- Merging keeps the order on each CPU. -/
theorem filter_cpu_records (r : Reader) (c : Nat) :
    r.records.filter (·.cpu == c) = r.stream c := by
  have hown : ∀ c, ∀ a ∈ r.stream c, a.cpu = c := fun c a ha => ((r.mem_stream c a).mp ha).2
  rw [records_eq_mergeAll, streams, filter_key_mergeAll hown r.nodup_cpus]
  by_cases hc : c ∈ r.cpus
  · rw [if_pos hc]
  · rw [if_neg hc, r.stream_eq_nil hc]

/-- No two records have one place. -/
theorem Sound.nodup_seqs {r : Reader} (h : r.Sound) : (r.inFileOrder.map Record.seq).Nodup :=
  List.pairwise_map.mpr (h.ascending.imp Nat.ne_of_lt)

/-- Two kept records with one place are one record. -/
theorem Sound.eq_of_seq {r : Reader} (h : r.Sound) {a b : Record} (ha : a ∈ r.inFileOrder)
    (hb : b ∈ r.inFileOrder) (hseq : a.seq = b.seq) : a = b :=
  List.inj_on_of_nodup_map h.nodup_seqs ha hb hseq

/-- Only one list can come from draining the streams. -/
theorem drained_records_iff {r : Reader} (h : r.Sound) (out : List Record) :
    Drained Record.before r.streams out ↔ out = r.records := by
  apply drained_iff Record.before_total Record.before_trans h.nodup_streams
  intro a ha b hb hab hba
  rw [mem_flatten_streams] at ha hb
  exact h.eq_of_seq ha hb (Record.seq_eq_of_before hab hba)

/-- Records in order are in order of time. -/
theorem pairwise_timestamp_of_before {xs : List Record}
    (h : xs.Pairwise fun a b => a.before b = true) :
    xs.Pairwise fun a b => a.timestamp.le b.timestamp = true :=
  h.imp fun {a b} hab => ((a.before_iff b).mp hab).1

/-- All records come out in order just when each CPU has its records in order of time. -/
theorem pairwise_records_iff {r : Reader} (h : r.Sound) :
    (r.records.Pairwise fun a b => a.before b = true)
      ↔ ∀ c, (r.stream c).Pairwise fun a b => a.timestamp.le b.timestamp = true := by
  constructor
  · -- the records of one CPU are a part of what came out
    intro hsorted c
    rw [← filter_cpu_records]
    exact pairwise_timestamp_of_before (hsorted.sublist List.filter_sublist)
  · -- and in a stream that is in order of time, equal times are in order of place
    intro htimes
    rw [records_eq_mergeAll]
    apply pairwise_mergeAll Record.before_total Record.before_trans
    intro s hs
    obtain ⟨c, -, rfl⟩ := List.mem_map.mp hs
    have hseq : (r.stream c).Pairwise fun a b => a.seq < b.seq := h.ascending.filter _
    apply ((htimes c).and hseq).imp
    intro a b hab
    rw [Record.before_iff]
    exact ⟨hab.1, fun _ => Nat.le_of_lt hab.2⟩

/-- Records in order are the only arrangement of the kept records that is in order. -/
theorem records_eq_of_perm {r : Reader} (h : r.Sound)
    (htimes : ∀ c, (r.stream c).Pairwise fun a b => a.timestamp.le b.timestamp = true)
    {xs : List Record} (hperm : xs.Perm r.inFileOrder)
    (hxs : xs.Pairwise fun a b => a.before b = true) : r.records = xs := by
  have hsorted := (pairwise_records_iff h).mpr htimes
  apply ((records_perm h).trans hperm.symm).eq_of_pairwise _ hsorted hxs
  intro a b ha hb hab hba
  exact h.eq_of_seq ((records_perm h).mem_iff.mp ha) (hperm.mem_iff.mp hb)
    (Record.seq_eq_of_before hab hba)

/-- Of records in order those of one time stand in file order. -/
theorem filter_timestamp_records {r : Reader} (h : r.Sound)
    (hsorted : r.records.Pairwise fun a b => a.before b = true) (t : Binary64) :
    r.records.filter (·.timestamp == t) = r.inFileOrder.filter (·.timestamp == t) := by
  -- both sides hold the same records, in order of their places
  have hrecords : (r.records.filter (·.timestamp == t)).Pairwise fun a b => a.seq ≤ b.seq := by
    rw [List.pairwise_filter]
    apply hsorted.imp
    intro a b hab ha hb
    apply ((a.before_iff b).mp hab).2
    rw [beq_iff_eq] at ha hb
    rw [ha, hb]
  have hfile : (r.inFileOrder.filter (·.timestamp == t)).Pairwise fun a b => a.seq ≤ b.seq :=
    (h.ascending.imp Nat.le_of_lt).filter _
  have hperm := (records_perm h).filter (·.timestamp == t)
  apply hperm.eq_of_pairwise _ hrecords hfile
  intro a b ha hb hab hba
  have ha' := (List.mem_filter.mp (hperm.mem_iff.mp ha)).1
  have hb' := (List.mem_filter.mp hb).1
  exact h.eq_of_seq ha' hb' (Nat.le_antisymm hab hba)

/-- Records in order are the kept records sorted by time. -/
theorem records_eq_mergeSort {r : Reader} (h : r.Sound)
    (hsorted : r.records.Pairwise fun a b => a.before b = true) :
    r.records = r.inFileOrder.mergeSort fun a b => a.timestamp.le b.timestamp := by
  apply @eq_of_ties _ _ _ Record.timestamp Binary64.le
    (fun a b => Binary64.le_antisymm) _ _ (pairwise_timestamp_of_before hsorted)
  · apply List.pairwise_mergeSort
    · intro a b c
      exact Binary64.le_trans
    · intro a b
      simpa using Binary64.le_total a.timestamp b.timestamp
  · intro t
    rw [filter_timestamp_records h hsorted,
      filter_key_mergeSort Binary64.le_total (fun a b c => Binary64.le_trans)]

end Reader

/-! ## §4. Whatever a reader was given. -/

/-- **Merging is right in every reader that a caller can hold**, whatever file it read, whatever
lines came after and whatever CPUs the records name:
* taking the first of the heads again and again gives `records`, and nothing else;
* every kept record comes out exactly once, and those of each CPU in file order;
* all are in order of time and place just when the records of each CPU are in order of time;
* and then they are the kept records as a stable sort by time leaves them. -/
theorem records_of_reached {r : Reader} (h : Reached r) :
    (∀ out, Drained Record.before r.streams out ↔ out = r.records)
      ∧ r.records.Perm r.inFileOrder ∧ r.records.Nodup
      ∧ (∀ c, r.records.filter (·.cpu == c) = r.inFileOrder.filter (·.cpu == c))
      ∧ ((r.records.Pairwise fun a b => a.before b = true)
          ↔ ∀ c, (r.inFileOrder.filter (·.cpu == c)).Pairwise fun a b =>
              a.timestamp.le b.timestamp = true)
      ∧ ((∀ c, (r.inFileOrder.filter (·.cpu == c)).Pairwise fun a b =>
              a.timestamp.le b.timestamp = true)
          → r.records = r.inFileOrder.mergeSort fun a b => a.timestamp.le b.timestamp) := by
  have hsound := h.sound
  have hperm := Reader.records_perm hsound
  have hsorted := Reader.pairwise_records_iff hsound
  refine ⟨Reader.drained_records_iff hsound, hperm, hperm.nodup_iff.mpr hsound.nodup,
    r.filter_cpu_records, hsorted, ?_⟩
  intro htimes
  exact Reader.records_eq_mergeSort hsound (hsorted.mpr htimes)

/-- A file in which the first CPU is read after the second, at the same time. -/
def twoCpus : FileSystem where
  read _ := .ok ("kworker/1:0-23 [001]  2.5: kfree: ptr=1
kworker/0:1-24 [000]  2.5: kfree: ptr=2
".toList.flatMap String.utf8EncodeChar)
  refusal? _ := none

/-- The reader that has read it. -/
def twoCpusRead : Reader where
  keeps := ["kfree"]
  seen := 2
  kept :=
    [{ event := "kfree", fields := [("ptr", "2")], cpu := 0, timestamp := .finite (5 / 2),
       task := "kworker/0:1", pid := 24, seq := 1 },
     { event := "kfree", fields := [("ptr", "1")], cpu := 1, timestamp := .finite (5 / 2),
       task := "kworker/1:0", pid := 23, seq := 0 }]

theorem eq_ok_of_toOption {ε α : Type*} {result : Except ε α} {a : α}
    (h : result.toOption = some a) : result = .ok a := by
  cases result with
  | error e => cases h
  | ok b =>
      injection h with hab
      rw [hab]

theorem load_twoCpus : load twoCpus "trace" ["kfree"] = .ok twoCpusRead :=
  eq_ok_of_toOption (by decide +kernel)

/-- A line that takes the first CPU back in time. -/
def backInTime : List Char := "kworker/0:1-24 [000]  1.5: kfree: ptr=3".toList

/-- Of equal times the one that is first in the file comes first.  A line that goes back in time
leaves the records of its CPU as they were given, so that not all are in order. -/
theorem records_backInTime :
    let r := twoCpusRead
    let s := (r.step (.ofText backInTime)).1
    load twoCpus "trace" ["kfree"] = .ok r
      ∧ (r.records.Pairwise fun a b => a.before b = true)
      ∧ s.records.Perm s.inFileOrder
      ∧ (s.records.filter (·.cpu == 0)).map (·.seq) = [1, 2]
      ∧ ¬ s.records.Pairwise fun a b => a.before b = true := by
  intro r s
  have hr : Reached r := .loaded load_twoCpus
  obtain ⟨-, -, -, -, hsorted, -⟩ := records_of_reached hr
  obtain ⟨-, hperm, -, hcpu, hunsorted, -⟩ := records_of_reached (hr.given backInTime)
  refine ⟨load_twoCpus, ?_, hperm, ?_, ?_⟩
  · apply hsorted.mpr
    intro c
    apply List.Pairwise.filter
    decide +kernel
  · rw [hcpu 0]
    decide +kernel
  · -- CPU 0 goes back in time, so the whole cannot be in order
    rw [hunsorted]
    intro htimes
    have hback := htimes 0
    revert hback
    decide +kernel

end Trace

end SlabWaste
