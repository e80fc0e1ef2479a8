/-
  SlabWaste.Proofs.Trace.Progress
  ───────────────────────────────
  **LINE AFTER LINE.**

  A reader goes on until a line stops it.  So reading lines is reading the first
  of them and then the others, and what stops a reader is a certain line after
  others that did not:

      steps_append            lines in two parts
      steps_eq_some_iff       the line that stops the reading
      seen_steps              how many of the lines are records
      Reached.of_step         what every line preserves
-/
import SlabWaste.Proofs.Trace.Keeping

namespace SlabWaste.Trace

/-- A line that counts as a record. -/
def Line.isRecord : Line → Bool
  | .record _ _ _ => true
  | _ => false

namespace Reader

/-! ## §1. Lines in two parts. -/

theorem steps_cons_ok {r s : Reader} {line : Line} {found : Option Record}
    (h : r.step line = (s, .ok found)) (lines : List Line) :
    r.steps (line :: lines) = s.steps lines := by
  rw [steps, h]

theorem steps_cons_error {r s : Reader} {line : Line} {fault : Fault}
    (h : r.step line = (s, .error fault)) (lines : List Line) :
    r.steps (line :: lines) = (s, some fault) := by
  rw [steps, h]

/-- Lines are read by going on from where the first of them led. -/
theorem steps_append {r s : Reader} {front : List Line} (h : r.steps front = (s, none))
    (back : List Line) : r.steps (front ++ back) = s.steps back := by
  induction front generalizing r with
  | nil =>
      injection h with h
      rw [← h]
      rfl
  | cons line front ih =>
      cases hline : r.step line with
      | mk next result =>
          cases result with
          | error fault =>
              rw [steps_cons_error hline] at h
              cases h
          | ok found =>
              rw [steps_cons_ok hline] at h
              rw [List.cons_append, steps_cons_ok hline, ih h]

/-- A reader that comes to the end came to the end of the first lines, and went on from there. -/
theorem exists_of_steps_append {r s : Reader} {front back : List Line}
    (h : r.steps (front ++ back) = (s, none)) :
    ∃ t, r.steps front = (t, none) ∧ t.steps back = (s, none) := by
  induction front generalizing r with
  | nil => exact ⟨r, rfl, h⟩
  | cons line front ih =>
      rw [List.cons_append] at h
      cases hline : r.step line with
      | mk next result =>
          cases result with
          | error fault =>
              rw [steps_cons_error hline] at h
              cases h
          | ok found =>
              rw [steps_cons_ok hline] at h ⊢
              exact ih h

/-- What one line preserves, whether it stops the reader or not, all lines preserve. -/
theorem steps_of_step {P : Reader → Prop} (hstep : ∀ r line, P r → P (r.step line).1) {r : Reader}
    (h : P r) (lines : List Line) : P (r.steps lines).1 := by
  induction lines generalizing r with
  | nil => exact h
  | cons line lines ih =>
      have hnext := hstep r line h
      cases hline : r.step line with
      | mk next result =>
          rw [hline] at hnext
          cases result with
          | error fault =>
              rw [steps_cons_error hline]
              exact hnext
          | ok found =>
              rw [steps_cons_ok hline]
              exact ih hnext

/-- Lines change nothing of what is to be kept. -/
theorem keeps_steps (r : Reader) (lines : List Line) : (r.steps lines).1.keeps = r.keeps :=
  steps_of_step (P := fun s => s.keeps = r.keeps) (fun s line h => (s.keeps_step line).trans h) rfl
    lines

/-! ## §2. The line that stops the reading. -/

/-- What stops a reader is a line after some that did not. -/
theorem steps_eq_some_iff {r : Reader} {lines : List Line} {fault : Fault} :
    (r.steps lines).2 = some fault
      ↔ ∃ earlier line later s, lines = earlier ++ line :: later ∧ r.steps earlier = (s, none)
        ∧ (s.step line).2 = .error fault := by
  constructor
  · intro h
    -- on the lines, the first one that fails being where the run stops
    induction lines generalizing r with
    | nil => cases h
    | cons line lines ih =>
        cases hline : r.step line with
        | mk next result =>
            cases result with
            | error other =>
                rw [steps_cons_error hline] at h
                injection h with h
                subst h
                exact ⟨[], line, lines, r, rfl, rfl, by rw [hline]⟩
            | ok found =>
                rw [steps_cons_ok hline] at h
                obtain ⟨earlier, last, later, s, rfl, hearlier, hlast⟩ := ih h
                exact ⟨line :: earlier, last, later, s, rfl,
                  by rw [steps_cons_ok hline, hearlier], hlast⟩
  · rintro ⟨earlier, line, later, s, rfl, hearlier, hline⟩
    cases hstep : s.step line with
    | mk next result =>
        rw [hstep] at hline
        subst hline
        rw [steps_append hearlier, steps_cons_error hstep]

/-! ## §3. How many records there were. -/

/-- Each line with a record is counted, … -/
theorem seen_step (r : Reader) (line : Line) :
    (r.step line).1.seen = r.seen + if line.isRecord then 1 else 0 := by
  rcases line.record_or with ⟨parts, event, fields, rfl⟩ | hno
  · show (r.stepRecord parts event fields).1.seen = r.seen + 1
    rcases r.stepRecord_cases parts event fields with h | ⟨record, -, h⟩
    · rw [h]
    · rw [h]
  · have hrecord : line.isRecord = false := by
      cases line with
      | record parts event fields => exact absurd rfl (hno parts event fields)
      | _ => rfl
    rw [(r.step_of_not_record hno).2.1, hrecord]
    rfl

/-- … whether the record is kept or not. -/
theorem seen_steps {r s : Reader} {lines : List Line} (h : r.steps lines = (s, none)) :
    s.seen = r.seen + lines.countP Line.isRecord := by
  induction lines generalizing r with
  | nil =>
      injection h with h
      rw [← h]
      rfl
  | cons line lines ih =>
      have hseen := r.seen_step line
      cases hline : r.step line with
      | mk next result =>
          rw [hline] at hseen
          cases result with
          | error fault =>
              rw [steps_cons_error hline] at h
              cases h
          | ok found =>
              rw [steps_cons_ok hline] at h
              rw [ih h, hseen, List.countP_cons, Nat.add_assoc, Nat.add_comm (List.countP _ _)]

/-- Before the first record nothing was seen. -/
theorem seen_eq_zero_iff {keeps : List String} {s : Reader} {lines : List Line}
    (h : Reader.steps { keeps } lines = (s, none)) :
    s.seen = 0 ↔ ∀ line ∈ lines, line.isRecord = false := by
  rw [seen_steps h, Nat.zero_add, List.countP_eq_zero]
  simp only [Bool.not_eq_true]

end Reader

/-! ## §4. Whatever a reader was given. -/

/-- What holds before the first line, and is preserved by each line whatever becomes of it, holds of
every reader that a caller can hold. -/
theorem Reached.of_step {P : Reader → Prop} (hstart : ∀ keeps, P { keeps })
    (hstep : ∀ r line, P r → P (r.step line).1) {r : Reader} (h : Reached r) : P r := by
  induction h with
  | @loaded fs path keeps r h =>
      obtain ⟨bytes, -, -, hsteps, -⟩ := load_eq_ok_iff.mp h
      have hread := Reader.steps_of_step hstep (hstart keeps) (linesOf bytes)
      rw [hsteps] at hread
      exact hread
  | @given r _ text ih => exact hstep r (.ofText text) ih

end SlabWaste.Trace
