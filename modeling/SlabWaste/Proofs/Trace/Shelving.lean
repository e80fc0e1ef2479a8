/-
  SlabWaste.Proofs.Trace.Shelving
  ───────────────────────────────
  **WHERE A READER PUTS WHAT IT KEEPS.**

  A reader puts each record that it keeps on the shelf of its CPU, behind those
  that came before it.  What stands on the shelves are the streams that are merged
  afterwards, and whatever the reader was given, lines of other events and lines
  that stopped it included, the shelves are in order:

      shelves_perm           the shelves are the streams
      Chosen.step            only events that are to be kept are kept
      Sound.orderly          what this and the positions mean for the shelves

  Main result: `orderly_of_reached`.
-/
import Mathlib.Data.List.Perm.Subperm
import SlabWaste.Proofs.Trace.Layout
import SlabWaste.Proofs.Trace.Progress

namespace SlabWaste.Trace

/-! ## §1. Shelves. -/

/-- What shelving changes, where the shelf of each CPU holds what a function says and no CPU has
two. -/
theorem shelve_map (f : Nat → List Record) {cs : List Nat} (hcs : cs.Nodup) {a : Record}
    (hnew : a.cpu ∉ cs → f a.cpu = []) :
    shelve (cs.map fun c => (c, f c)) a
      = (if a.cpu ∈ cs then cs else cs ++ [a.cpu]).map fun c =>
        (c, if a.cpu = c then f c ++ [a] else f c) := by
  -- along the shelves, up to the one of that CPU
  induction cs with
  | nil =>
      rw [if_neg List.not_mem_nil, List.nil_append, List.map_singleton, if_pos rfl,
        hnew List.not_mem_nil]
      rfl
  | cons c cs ih =>
      obtain ⟨hc, hcs⟩ := List.nodup_cons.mp hcs
      rw [List.map_cons, shelve]
      by_cases hown : c = a.cpu
      · -- no shelf behind this one is that of the record
        have hrest : ∀ d ∈ cs, (d, f d) = (d, if a.cpu = d then f d ++ [a] else f d) := by
          intro d hd
          rw [if_neg]
          rintro rfl
          exact hc (hown ▸ hd)
        rw [if_pos hown, if_pos (List.mem_cons.mpr (Or.inl hown.symm)), List.map_cons,
          if_pos hown.symm, List.map_congr_left hrest]
      · have hmem : a.cpu ∈ c :: cs ↔ a.cpu ∈ cs :=
          List.mem_cons.trans (or_iff_right (Ne.symm hown))
        have hkeys : (if a.cpu ∈ c :: cs then c :: cs else c :: cs ++ [a.cpu])
            = c :: if a.cpu ∈ cs then cs else cs ++ [a.cpu] := by
          simp only [hmem]
          split
          · rfl
          · rfl
        rw [if_neg hown, hkeys, List.map_cons, if_neg (Ne.symm hown),
          ih hcs fun h => hnew fun hin => h (hmem.mp hin)]

/-- One more entry is listed if it is not yet. -/
theorem eraseDups_concat {α : Type*} [DecidableEq α] (xs : List α) (x : α) :
    (xs ++ [x]).eraseDups = if x ∈ xs then xs.eraseDups else xs.eraseDups ++ [x] := by
  rw [List.eraseDups_append]
  by_cases h : x ∈ xs
  · simp [h, List.removeAll]
  · simp [h, List.removeAll, List.eraseDups_cons]

namespace Reader

/-- A reader that has kept a record is one that kept the others, and then this one. -/
theorem exists_of_kept_eq_cons {r : Reader} {a : Record} {kept : List Record}
    (h : r.kept = a :: kept) :
    ∃ s : Reader, s.kept = kept ∧ r = { s with seen := r.seen, kept := a :: s.kept } := by
  refine ⟨{ r with kept := kept }, rfl, ?_⟩
  rw [← h]

/-- What is shelved as it came stands by CPU, the CPUs in the order in which they came up, and the
records of each in file order. -/
theorem shelves_eq (r : Reader) :
    r.shelves = (r.inFileOrder.map (·.cpu)).eraseDups.map fun c => (c, r.stream c) := by
  -- on what was kept, the record that came last being the first of it
  induction hkept : r.kept generalizing r with
  | nil =>
      unfold shelves inFileOrder
      rw [hkept]
      rfl
  | cons a kept ih =>
      obtain ⟨s, hs, hr⟩ := exists_of_kept_eq_cons hkept
      have hnew : a.cpu ∉ (s.inFileOrder.map (·.cpu)).eraseDups → s.stream a.cpu = [] := by
        intro hcpu
        apply s.stream_eq_nil
        rwa [mem_cpus, ← List.mem_map, ← List.mem_eraseDups]
      rw [hr, shelves_keep, ih s hs, shelve_map _ (nodup_eraseDups _) hnew, inFileOrder_keep,
        List.map_append, List.map_singleton, eraseDups_concat]
      simp only [stream_cons, List.mem_eraseDups]

/-- **The shelves are the streams**, each under its CPU. -/
theorem shelves_perm (r : Reader) : r.shelves.Perm (r.cpus.map fun c => (c, r.stream c)) := by
  rw [shelves_eq]
  apply List.Perm.map
  rw [List.perm_ext_iff_of_nodup (nodup_eraseDups _) r.nodup_cpus]
  intro c
  rw [List.mem_eraseDups, List.mem_map, mem_cpus]

/-- There is a shelf for each CPU, with the stream of it, and no other shelf. -/
theorem mem_shelves_iff (r : Reader) (shelf : Nat × List Record) :
    shelf ∈ r.shelves ↔ shelf.1 ∈ r.cpus ∧ shelf.2 = r.stream shelf.1 := by
  rw [r.shelves_perm.mem_iff, List.mem_map]
  constructor
  · rintro ⟨c, hc, rfl⟩
    exact ⟨hc, rfl⟩
  · rintro ⟨hc, hs⟩
    exact ⟨shelf.1, hc, Prod.ext rfl hs.symm⟩

/-- No CPU has two shelves. -/
theorem nodup_shelves (r : Reader) : (r.shelves.map Prod.fst).Nodup := by
  rw [shelves_eq, List.map_map]
  simpa [Function.comp_def] using nodup_eraseDups _

/-- The CPUs are merged in ascending order. -/
theorem ascending_cpus (r : Reader) : r.cpus.Pairwise (· < ·) := by
  have hle : r.cpus.Pairwise fun a b => decide (a ≤ b) = true := by
    apply List.pairwise_mergeSort
    · simpa using fun a b c => Nat.le_trans
    · simpa using Nat.le_total
  apply (hle.and r.nodup_cpus).imp
  intro a b hab
  have hab' : a ≤ b := of_decide_eq_true hab.1
  exact Nat.lt_of_le_of_ne hab' hab.2

/-! ## §2. What is kept. -/

/-- Only events that are to be kept are. -/
def Chosen (r : Reader) : Prop := ∀ a ∈ r.kept, a.event ∈ r.keeps

theorem chosen_start (keeps : List String) : ({ keeps } : Reader).Chosen :=
  fun _ ha => nomatch ha

/-- A record is kept only if its event is one of those to keep. -/
theorem Chosen.step {r : Reader} (h : r.Chosen) (line : Line) : (r.step line).1.Chosen := by
  unfold Chosen
  rcases r.step_keeps_or line with ⟨a, hstep, -, hevent⟩ | ⟨-, hkept⟩
  · rw [hstep]
    intro b hb
    rcases List.mem_cons.mp hb with rfl | hb
    · exact hevent
    · exact h b hb
  · rw [hkept, r.keeps_step line]
    exact h

/-! ## §3. The shelves. -/

/-- The shelves of a reader are in order. -/
structure Orderly (r : Reader) : Prop where
  /-- As many records stand on the shelves as were kept. -/
  complete : r.kept.length = (r.shelves.map fun shelf => shelf.2.length).sum
  /-- No more records were kept than there were. -/
  few : r.kept.length ≤ r.seen
  /-- No CPU has two shelves. -/
  single : (r.shelves.map Prod.fst).Nodup
  /-- No shelf is empty. -/
  filled : ∀ shelf ∈ r.shelves, shelf.2 ≠ []
  /-- A record stands on the shelf of its CPU. -/
  own : ∀ shelf ∈ r.shelves, ∀ a ∈ shelf.2, a.cpu = shelf.1
  /-- Its event is one that is to be kept. -/
  chosen : ∀ shelf ∈ r.shelves, ∀ a ∈ shelf.2, a.event ∈ r.keeps
  /-- Positions ascend along each shelf. -/
  ascending : ∀ shelf ∈ r.shelves, shelf.2.Pairwise fun a b => a.seq < b.seq
  /-- No two records of all the shelves have one position. -/
  distinct : (r.shelves.flatMap Prod.snd).Pairwise fun a b => a.seq ≠ b.seq
  /-- Every position is below the next one. -/
  below : ∀ shelf ∈ r.shelves, ∀ a ∈ shelf.2, a.seq < r.seen

/-- The records on all the shelves are those that were kept. -/
theorem Sound.flatMap_shelves_perm {r : Reader} (h : r.Sound) :
    (r.shelves.flatMap Prod.snd).Perm r.inFileOrder := by
  have hstreams : (r.cpus.map fun c => (c, r.stream c)).flatMap Prod.snd = r.streams.flatten := by
    rw [List.flatMap_map]
    exact List.flatMap_def
  have hperm := r.shelves_perm.flatMap_right Prod.snd
  rw [hstreams] at hperm
  exact hperm.trans h.perm_streams

/-- There are no more records than positions. -/
theorem Sound.length_kept_le {r : Reader} (h : r.Sound) : r.kept.length ≤ r.seen := by
  have hsub : r.inFileOrder.map Record.seq ⊆ List.range r.seen := by
    intro n hn
    obtain ⟨a, ha, rfl⟩ := List.mem_map.mp hn
    exact List.mem_range.mpr (h.below a (List.mem_reverse.mp ha))
  have hle := (h.nodup_seqs.subperm hsub).length_le
  rwa [List.length_map, List.length_range, inFileOrder, List.length_reverse] at hle

/-- What stands on a shelf was kept, and belongs there. -/
theorem mem_kept_of_mem_shelf {r : Reader} {shelf : Nat × List Record} (h : shelf ∈ r.shelves)
    {a : Record} (ha : a ∈ shelf.2) : a ∈ r.kept ∧ a.cpu = shelf.1 := by
  obtain ⟨-, hs⟩ := (r.mem_shelves_iff shelf).mp h
  rw [hs, mem_stream] at ha
  exact ⟨List.mem_reverse.mp ha.1, ha.2⟩

/-- **Shelves are in order** if positions ascend in the file and only chosen events were kept. -/
theorem Sound.orderly {r : Reader} (h : r.Sound) (hchosen : r.Chosen) : r.Orderly where
  complete := by
    have hlength := h.flatMap_shelves_perm.length_eq
    rw [List.length_flatMap, inFileOrder, List.length_reverse] at hlength
    exact hlength.symm
  few := h.length_kept_le
  single := r.nodup_shelves
  filled := by
    -- a CPU has a shelf because of a record, and that record stands on it
    intro shelf hshelf hempty
    obtain ⟨hc, hs⟩ := (r.mem_shelves_iff shelf).mp hshelf
    obtain ⟨a, ha, hcpu⟩ := (r.mem_cpus shelf.1).mp hc
    have hmem : a ∈ r.stream shelf.1 := (r.mem_stream shelf.1 a).mpr ⟨ha, hcpu⟩
    rw [← hs, hempty] at hmem
    cases hmem
  own := fun _ hshelf _ ha => (mem_kept_of_mem_shelf hshelf ha).2
  chosen := fun _ hshelf a ha => hchosen a (mem_kept_of_mem_shelf hshelf ha).1
  ascending := by
    intro shelf hshelf
    rw [((r.mem_shelves_iff shelf).mp hshelf).2]
    exact h.ascending.filter _
  distinct := by
    have hfile := List.pairwise_map.mp h.nodup_seqs
    exact hfile.perm h.flatMap_shelves_perm.symm Ne.symm
  below := fun _ hshelf a ha => h.below a (mem_kept_of_mem_shelf hshelf ha).1

end Reader

/-! ## §4. Whatever a reader was given. -/

theorem Reached.chosen {r : Reader} (h : Reached r) : r.Chosen :=
  h.of_step Reader.chosen_start fun _ line hr => hr.step line

/-- **The shelves are in order in every reader that a caller can hold**, one that was given lines
that stopped it included.  They are the streams that are merged, the CPUs in ascending order; a line
that is kept puts its record on its shelf and takes the next position, and any other line leaves all
shelves as they were. -/
theorem orderly_of_reached {r : Reader} (h : Reached r) :
    r.Orderly ∧ r.shelves.Perm (r.cpus.map fun c => (c, r.stream c)) ∧ r.cpus.Pairwise (· < ·)
      ∧ ∀ text,
        let next := r.step (.ofText text)
        (∀ a, next.2 = .ok (some a) →
            next.1.shelves = shelve r.shelves a ∧ next.1.kept.length = r.kept.length + 1
              ∧ a.seq = r.seen ∧ next.1.seen = r.seen + 1)
          ∧ ((∀ a, next.2 ≠ .ok (some a)) →
            next.1.shelves = r.shelves ∧ next.1.kept.length = r.kept.length) := by
  exact ⟨h.sound.orderly h.chosen, r.shelves_perm, r.ascending_cpus,
    fun text => r.shelves_step (.ofText text)⟩

/-- A trace of two CPUs, with an event that is not to be kept. -/
def switchTrace : List UInt8 :=
  "cc1-7 [002] 1.5: kfree: ptr=1
ld-8 [000] 1.5: sched_switch: prev=8
cc1-7 [002] 1.0: kfree: ptr=2
".toList.flatMap String.utf8EncodeChar

/-- A file system in which every path leads to it. -/
def switchFiles : FileSystem where
  read _ := .ok switchTrace
  refusal? _ := none

/-- The reader that has read it. -/
def switchRead : Reader where
  keeps := ["kfree"]
  seen := 3
  kept :=
    [{ event := "kfree", fields := [("ptr", "2")], cpu := 2, timestamp := .finite 1,
       task := "cc1", pid := 7, seq := 2 },
     { event := "kfree", fields := [("ptr", "1")], cpu := 2, timestamp := .finite (3 / 2),
       task := "cc1", pid := 7, seq := 0 }]

/-- A line to keep, but for the number of its process, which has a digit too many. -/
def longProcess : List Char :=
  "sh-".toList ++ (List.replicate (Numeral.digitLimit + 1) '9' ++ " [001] 2.5: kfree: ptr=3".toList)

/-- A line that stops a reader takes a position and no place on a shelf, and the line after it the
next position. -/
theorem orderly_longProcess :
    let r := switchRead
    let s := (r.step (.ofText longProcess)).1
    let t := (s.step (.ofText "sh-9 [000] 2.5: kfree: ptr=4\n".toList)).1
    load switchFiles "trace.log" ["kfree"] = .ok r
      ∧ (r.step (.ofText longProcess)).2 = .error (.number (.tooLong 4301))
      ∧ s.shelves = r.shelves ∧ s.seen = 4
      ∧ t.Orderly ∧ t.kept.length = 3 ∧ t.seen = 5
      ∧ t.shelves.map (fun shelf => (shelf.1, shelf.2.map (·.seq))) = [(2, [0, 2]), (0, [4])] := by
  intro r s t
  have hload : load switchFiles "trace.log" ["kfree"] = .ok r :=
    eq_ok_of_toOption (by decide +kernel)
  -- the line counts before its process number is found to be too long
  have hstep : r.step (.ofText longProcess)
      = ({ r with seen := 4 }, .error (.number (.tooLong 4301))) := by
    decide +kernel
  have hs : s = { r with seen := 4 } := congrArg Prod.fst hstep
  have hr : Reached r := .loaded hload
  obtain ⟨-, -, -, hlines⟩ := orderly_of_reached hr
  obtain ⟨ht, -⟩ := orderly_of_reached ((hr.given longProcess).given _)
  obtain ⟨hsame, -⟩ := (hlines longProcess).2 (by rw [hstep]; nofun)
  refine ⟨hload, congrArg Prod.snd hstep, hsame, by rw [hs], ht, ?_⟩
  show (Reader.step s _).1.kept.length = 3 ∧ (Reader.step s _).1.seen = 5
    ∧ (Reader.step s _).1.shelves.map _ = _
  rw [hs]
  decide +kernel

end SlabWaste.Trace
