/-
  SlabWaste.Proofs.Trace.Reached
  ──────────────────────────────
  **THE STATES OF A READER.**

  Every record takes the next position, whether it is kept or not, and nothing
  is ever taken back, not by a line that stops the reading either.  So the kept
  records stand in ascending order of their positions, all of them below the
  number of records seen:

      Sound.step         one line keeps it so
      sound_of_load      a reader that read a file is so
      Reached.sound      … and stays so, whatever lines it is given
-/
import SlabWaste.Trace.Reader

namespace SlabWaste.Trace

/-! ## §1. The invariant. -/

namespace Reader

/-- The kept records have ascending positions below the number of records seen. -/
structure Sound (r : Reader) : Prop where
  ascending : r.inFileOrder.Pairwise fun a b => a.seq < b.seq
  below : ∀ a ∈ r.kept, a.seq < r.seen

/-- Neither lost events nor records that are passed over matter here. -/
theorem Sound.of_eq {r s : Reader} (h : r.Sound) (hkept : s.kept = r.kept)
    (hseen : r.seen ≤ s.seen) : s.Sound := by
  constructor
  · unfold inFileOrder
    rw [hkept]
    exact h.ascending
  · intro a ha
    rw [hkept] at ha
    exact Nat.lt_of_lt_of_le (h.below a ha) hseen

/-- Before the first line nothing is kept. -/
theorem sound_start (keeps : List String) : ({ keeps } : Reader).Sound :=
  ⟨List.Pairwise.nil, fun a ha => by simp at ha⟩

/-! ## §2. One line. -/

/-- What a record line does: it counts, and if it is kept it takes the position that was next. -/
theorem stepRecord_cases (r : Reader) (parts : Parts) (event : String) (fields : List Char) :
    (r.stepRecord parts event fields).1 = { r with seen := r.seen + 1 }
      ∨ ∃ record, parts.toRecord event fields r.seen = .ok record
        ∧ (r.stepRecord parts event fields).1
          = { r with seen := r.seen + 1, kept := record :: r.kept } := by
  unfold stepRecord
  split
  · cases h : parts.toRecord event fields r.seen with
    | error fault => exact Or.inl rfl
    | ok record => exact Or.inr ⟨record, rfl, rfl⟩
  · exact Or.inl rfl

/-- One more record stands behind all others. -/
theorem Sound.step {r : Reader} (h : r.Sound) (line : Line) : (r.step line).1.Sound := by
  rcases line.record_or with ⟨parts, event, fields, rfl⟩ | hno
  · show (r.stepRecord parts event fields).1.Sound
    rcases r.stepRecord_cases parts event fields with hstep | ⟨record, hrecord, hstep⟩
    · rw [hstep]
      exact h.of_eq rfl (Nat.le_succ _)
    · -- the new record is the last in file order, and its position is above all others
      have hseq := seq_of_toRecord hrecord
      rw [hstep]
      constructor
      · show (record :: r.kept).reverse.Pairwise _
        rw [List.reverse_cons, List.pairwise_append]
        refine ⟨h.ascending, List.pairwise_singleton _ _, ?_⟩
        intro a ha b hb
        rw [List.mem_singleton.mp hb, hseq]
        exact h.below a (List.mem_reverse.mp ha)
      · intro a ha
        show a.seq < r.seen + 1
        rcases List.mem_cons.mp ha with rfl | ha
        · omega
        · exact Nat.lt_succ_of_lt (h.below a ha)
  · obtain ⟨hkept, hseen, -⟩ := r.step_of_not_record hno
    exact h.of_eq hkept (Nat.le_of_eq hseen.symm)

/-! ## §3. Many lines. -/

/-- So do any number of them. -/
theorem Sound.steps {r : Reader} (h : r.Sound) (lines : List Line) :
    (r.steps lines).1.Sound := by
  induction lines generalizing r with
  | nil => exact h
  | cons line lines ih =>
      -- a line that stops the reading leaves a sound reader behind as well
      have hstep := h.step line
      unfold Reader.steps
      cases hline : r.step line with
      | mk next result =>
          rw [hline] at hstep
          cases result with
          | error fault => exact hstep
          | ok record => exact ih hstep

end Reader

/-- A file is read just when it can be opened, is no binary capture, has no line that stops the
reading and has a record. -/
theorem load_eq_ok_iff {fs : FileSystem} {path : String} {keeps : List String} {r : Reader} :
    load fs path keeps = .ok r
      ↔ ∃ bytes, fs.read path = .ok bytes ∧ binaryMark.isPrefixOf bytes = false
        ∧ Reader.steps { keeps } (linesOf bytes) = (r, none) ∧ r.seen ≠ 0 := by
  unfold load
  cases hread : fs.read path with
  | error why => simp only [reduceCtorEq, false_and, exists_false]
  | ok bytes =>
      show ofBytes path bytes keeps = .ok r ↔ _
      simp only [Except.ok.injEq, exists_eq_left']
      unfold ofBytes
      -- the three ways not to load: the mark, a line that stops the reader, no record at all
      cases binaryMark.isPrefixOf bytes with
      | true => simp only [if_true, reduceCtorEq, false_and]
      | false =>
          cases Reader.steps { keeps } (linesOf bytes) with
          | mk s fault =>
              cases fault with
              | some fault => simp
              | none =>
                  show (if s.seen = 0 then _ else Except.ok s) = Except.ok r ↔ _
                  by_cases hseen : s.seen = 0
                  · rw [if_pos hseen]
                    simp only [reduceCtorEq, Prod.mk.injEq, and_true, true_and, false_iff]
                    rintro ⟨rfl, hr⟩
                    exact hr hseen
                  · rw [if_neg hseen]
                    simp only [Except.ok.injEq, Prod.mk.injEq, and_true, true_and]
                    constructor
                    · rintro rfl
                      exact ⟨rfl, hseen⟩
                    · exact fun h => h.1

/-- A trace that was read is sound. -/
theorem sound_of_load {fs : FileSystem} {path : String} {keeps : List String} {r : Reader}
    (h : load fs path keeps = .ok r) : r.Sound := by
  obtain ⟨bytes, -, -, hsteps, -⟩ := load_eq_ok_iff.mp h
  have hsound := (Reader.sound_start keeps).steps (linesOf bytes)
  rw [hsteps] at hsound
  exact hsound

/-- The readers that a caller can come to hold: one that read a file, and one that was then given
another line, whatever became of it. -/
inductive Reached : Reader → Prop where
  | loaded {fs : FileSystem} {path : String} {keeps : List String} {r : Reader}
      (h : load fs path keeps = .ok r) : Reached r
  | given {r : Reader} (h : Reached r) (text : List Char) : Reached (r.step (.ofText text)).1

/-- It stays so if more lines are read. -/
theorem Reached.sound {r : Reader} (h : Reached r) : r.Sound := by
  induction h with
  | loaded h => exact sound_of_load h
  | given _ text ih => exact ih.step (.ofText text)

end SlabWaste.Trace
