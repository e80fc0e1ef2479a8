/-
  SlabWaste.Proofs.Trace.Joining
  ──────────────────────────────
  **A TRACE IN TWO PARTS.**

  A trace that is cut after a line can be read in two parts, each for itself.
  The reader of the whole holds what the readers of the parts hold, with the
  records of the second part moved behind those of the first:

      step_behind       a line of the second part, read for itself or in the whole
      load_append       the file of the whole
      records_append    its records in order of time, if the parts are in order and
                        the first is not later than the second
-/
import SlabWaste.Proofs.Text.Joining
import SlabWaste.Proofs.Trace.Progress

namespace SlabWaste

/-! ## §1. Records further behind. -/

/-- The record, so many places further behind in its trace. -/
def Record.behind (n : Nat) (a : Record) : Record := { a with seq := n + a.seq }

/-- Records that are moved back together keep their order. -/
theorem Record.before_behind (n : Nat) {a b : Record} (h : a.before b = true) :
    (a.behind n).before (b.behind n) = true := by
  rw [before_iff] at h ⊢
  exact ⟨h.1, fun htime => Nat.add_le_add_left (h.2 htime) n⟩

namespace Trace

open SlabWaste.Text

namespace Reader

/-! ## §2. The reader of the whole. -/

/-- The reader of two parts, from a reader of each. -/
def append (a b : Reader) : Reader where
  keeps := a.keeps
  seen := a.seen + b.seen
  kept := b.kept.map (Record.behind a.seen) ++ a.kept
  missed := a.missed || b.missed
  lost := a.lost + b.lost

theorem append_start (a : Reader) : a.append { keeps := a.keeps } = a := by
  unfold append
  simp only [List.map_nil, List.nil_append, Nat.add_zero, Bool.or_false]

/-- In the file, the records of the second part stand behind those of the first, … -/
theorem inFileOrder_append (a b : Reader) :
    (a.append b).inFileOrder = a.inFileOrder ++ b.inFileOrder.map (Record.behind a.seen) := by
  unfold inFileOrder append
  rw [List.reverse_append, List.map_reverse]

/-- … and so they do on every CPU. -/
theorem stream_append (a b : Reader) (c : Nat) :
    (a.append b).stream c = a.stream c ++ (b.stream c).map (Record.behind a.seen) := by
  unfold stream
  rw [inFileOrder_append, List.filter_append, List.filter_map]
  rfl

/-! ## §3. Lines of the second part. -/

variable {a b s : Reader}

/-- A record is the same further back in the file, but for its place. -/
theorem toRecord_behind {parts : Parts} {event : String} {fields : List Char} {n seq : Nat}
    {record : Record} (h : parts.toRecord event fields seq = .ok record) :
    parts.toRecord event fields (n + seq) = .ok (record.behind n) := by
  obtain ⟨cpu, pid, hcpu, hpid, rfl⟩ := toRecord_eq_ok_iff.mp h
  exact toRecord_eq_ok_iff.mpr ⟨cpu, pid, hcpu, hpid, rfl⟩

/-- To keep a record is the same behind another part, but for its place. -/
theorem stepRecord_behind (hkeeps : b.keeps = a.keeps) {parts : Parts} {event : String}
    {fields : List Char} {found : Option Record}
    (h : b.stepRecord parts event fields = (s, .ok found)) :
    (a.append b).stepRecord parts event fields
      = (a.append s, .ok (found.map (Record.behind a.seen))) := by
  unfold stepRecord at h ⊢
  rw [hkeeps] at h
  -- a record that is kept takes its place behind all lines of `a`, any other only counts
  by_cases hevent : a.keeps.contains event = true
  · rw [if_pos hevent] at h
    cases hrecord : parts.toRecord event fields b.seen with
    | error fault =>
        rw [hrecord] at h
        cases h
    | ok record =>
        rw [hrecord] at h
        injection h with hs hfound
        injection hfound with hfound
        subst hs hfound
        rw [if_pos (show (a.append b).keeps.contains event = true from hevent),
          show (a.append b).seen = a.seen + b.seen from rfl, toRecord_behind hrecord]
        rfl
  · rw [if_neg hevent] at h
    injection h with hs hfound
    injection hfound with hfound
    subst hs hfound
    rw [if_neg (show ¬ (a.append b).keeps.contains event = true from hevent)]
    rfl

/-- So it is with a header that counts entries. -/
theorem stepEntries_behind {kept written : List Nat} {found : Option Record}
    (h : b.stepEntries kept written = (s, .ok found)) :
    (a.append b).stepEntries kept written = (a.append s, .ok none) := by
  unfold stepEntries at h ⊢
  cases hwritten : count written with
  | error fault =>
      rw [hwritten] at h
      cases h
  | ok many =>
      cases hkept : count kept with
      | error fault =>
          rw [hwritten, hkept] at h
          cases h
      | ok few =>
          rw [hwritten, hkept] at h
          simp only at h ⊢
          by_cases hless : few < many
          · rw [if_pos hless] at h ⊢
            injection h with hs
            rw [← hs]
            simp [append, Nat.add_assoc]
          · rw [if_neg hless] at h ⊢
            injection h with hs
            rw [← hs]

/-- **A line of the second part is taken in the whole as it is taken there**: no line is bare in
the whole that was not bare in its part. -/
theorem step_behind (hkeeps : b.keeps = a.keeps) {line : Line} {found : Option Record}
    (h : b.step line = (s, .ok found)) :
    ∃ own, (a.append b).step line = (a.append s, .ok own) := by
  -- what a line does to `b` it does behind `a`: counts are added to those of `a`
  cases line with
  | tracer name =>
      refine ⟨none, ?_⟩
      simp only [step] at h ⊢
      split at h
      · cases h
      · injection h with hs
        rw [← hs]
        rw [if_neg (by assumption)]
  | entries kept written => exact ⟨none, stepEntries_behind h⟩
  | lost digits =>
      refine ⟨none, ?_⟩
      simp only [step] at h ⊢
      cases hcount : count digits with
      | error fault =>
          rw [hcount] at h
          cases h
      | ok n =>
          rw [hcount] at h
          injection h with hs
          rw [← hs]
          simp [append, Nat.add_assoc]
  | nameless bare shown =>
      refine ⟨none, ?_⟩
      simp only [step] at h ⊢
      split at h
      · cases h
      · next hbare =>
          injection h with hs
          rw [← hs, if_neg]
          -- if no record came before in both parts, then none came before in the second
          rintro ⟨hseen, hbare'⟩
          exact hbare ⟨(Nat.add_eq_zero_iff.mp hseen).2, hbare'⟩
  | record parts event fields => exact ⟨_, stepRecord_behind hkeeps h⟩
  | other =>
      refine ⟨none, ?_⟩
      injection h with hs
      rw [← hs]
      rfl

/-- **Lines are read the same behind another part**, but for their places. -/
theorem steps_behind (hkeeps : b.keeps = a.keeps) {lines : List Line}
    (h : b.steps lines = (s, none)) : (a.append b).steps lines = (a.append s, none) := by
  induction lines generalizing b with
  | nil =>
      injection h with h
      rw [← h]
      rfl
  | cons line lines ih =>
      have hsame := b.keeps_step line
      cases hline : b.step line with
      | mk next result =>
          rw [hline] at hsame
          cases result with
          | error fault =>
              rw [steps_cons_error hline] at h
              cases h
          | ok found =>
              obtain ⟨own, hown⟩ := step_behind hkeeps hline
              rw [steps_cons_ok hline] at h
              rw [steps_cons_ok hown]
              exact ih (hsame.trans hkeeps) h

/-! ## §4. Lost events. -/

/-- Lost events are counted only where it is noted that there are any. -/
def LossNoted (r : Reader) : Prop := r.missed = false → r.lost = 0

/-- No line lets a reader count lost events without a note. -/
theorem LossNoted.step {r : Reader} (h : r.LossNoted) (line : Line) :
    (r.step line).1.LossNoted := by
  -- the counter moves only where the mark is set as well
  cases line with
  | tracer name =>
      simp only [Reader.step]
      split
      · exact h
      · exact h
  | entries kept written =>
      simp only [Reader.step, stepEntries]
      cases count written with
      | error fault => exact h
      | ok many =>
          cases count kept with
          | error fault => exact h
          | ok few =>
              by_cases hless : few < many
              · simp only [if_pos hless]
                intro hmissed
                cases hmissed
              · simp only [if_neg hless]
                exact h
  | lost digits =>
      simp only [Reader.step]
      cases count digits with
      | error fault =>
          intro hmissed
          cases hmissed
      | ok n =>
          intro hmissed
          cases hmissed
  | nameless bare shown =>
      simp only [Reader.step]
      split
      · exact h
      · exact h
  | record parts event fields =>
      show (r.stepRecord parts event fields).1.LossNoted
      rcases r.stepRecord_cases parts event fields with hstep | ⟨record, -, hstep⟩
      · rw [hstep]
        exact h
      · rw [hstep]
        exact h
  | other => exact h

end Reader

/-- Nor is there a trace that does. -/
theorem lossNoted_of_load {fs : FileSystem} {path : String} {keeps : List String} {r : Reader}
    (h : load fs path keeps = .ok r) : r.LossNoted := by
  obtain ⟨bytes, -, -, hsteps, -⟩ := load_eq_ok_iff.mp h
  have hstart : ({ keeps } : Reader).LossNoted := fun _ => rfl
  have hnoted := Reader.steps_of_step (fun _ line h => h.step line) hstart (linesOf bytes)
  rw [hsteps] at hnoted
  exact hnoted

/-! ## §5. The file of the whole. -/

/-- The mark of a binary capture has no line feed, so that a text that ends with one is not the
beginning of it. -/
theorem not_binaryMark_append {front back : List UInt8}
    (hmark : binaryMark.isPrefixOf (front ++ [0x0A]) = false) :
    binaryMark.isPrefixOf (front ++ 0x0A :: back) = false := by
  rw [Bool.eq_false_iff] at hmark ⊢
  intro hprefix
  rw [List.isPrefixOf_iff_prefix] at hprefix
  apply hmark
  rw [List.isPrefixOf_iff_prefix]
  rcases List.prefix_or_prefix_of_prefix hprefix
      (show front ++ [0x0A] <+: front ++ 0x0A :: back from ⟨back, by simp⟩) with h | h
  · exact h
  · have hmem : (0x0A : UInt8) ∈ binaryMark := h.subset (by simp)
    exact absurd hmem (by decide)

/-- A file may be cut behind a line feed. -/
theorem linesOf_append (front back : List UInt8) :
    linesOf (front ++ 0x0A :: back) = linesOf (front ++ [0x0A]) ++ linesOf back := by
  unfold linesOf
  rw [Utf8.decodeLossy_append_lineFeed, Utf8.decodeLossy_append_lineFeed, lines_append_lineFeed,
    List.map_append]
  rfl

variable {fs : FileSystem} {first second whole : String} {front back : List UInt8}
  {keeps : List String} {a b : Reader}

/-- **The file of the whole is read if the parts are**, and its reader is that of the parts. -/
theorem load_append (hfirst : fs.read first = .ok front) (hsecond : fs.read second = .ok back)
    (hwhole : fs.read whole = .ok (front ++ back)) (hend : front.getLast? = some 0x0A)
    (ha : load fs first keeps = .ok a) (hb : load fs second keeps = .ok b) :
    load fs whole keeps = .ok (a.append b) := by
  obtain ⟨init, rfl⟩ := List.getLast?_eq_some_iff.mp hend
  obtain ⟨bytes, hread, hmark, hsteps, hseen⟩ := load_eq_ok_iff.mp ha
  obtain ⟨bytes', hread', -, hsteps', -⟩ := load_eq_ok_iff.mp hb
  rw [hfirst] at hread
  rw [hsecond] at hread'
  injection hread with hread
  injection hread' with hread'
  subst hread hread'
  rw [List.append_assoc, List.singleton_append] at hwhole
  have hkeeps : a.keeps = keeps := by
    have hsame := Reader.keeps_steps { keeps } (linesOf (init ++ [0x0A]))
    rw [hsteps] at hsame
    exact hsame
  -- the lines of the second part are read on behind the first, from a reader with nothing of its
  -- own
  have hback : a.steps (linesOf back) = (a.append b, none) := by
    have hbehind : (a.append { keeps }).steps (linesOf back) = (a.append b, none) :=
      Reader.steps_behind hkeeps.symm hsteps'
    rw [← hkeeps, a.append_start] at hbehind
    exact hbehind
  refine load_eq_ok_iff.mpr ⟨_, hwhole, not_binaryMark_append hmark, ?_, ?_⟩
  · rw [linesOf_append, Reader.steps_append hsteps, hback]
  · intro hzero
    exact hseen (Nat.add_eq_zero_iff.mp hzero).1

/-! ## §6. In order of time. -/

/-- **The records of the whole are those of the first part and then those of the second**, if the
parts are in order of time and the first is not later than the second. -/
theorem records_append (ha : a.Sound) (hb : b.Sound) (hab : (a.append b).Sound)
    (hatimes : ∀ c, (a.stream c).Pairwise fun x y => x.timestamp.le y.timestamp = true)
    (hbtimes : ∀ c, (b.stream c).Pairwise fun x y => x.timestamp.le y.timestamp = true)
    (hcut : ∀ x ∈ a.inFileOrder, ∀ y ∈ b.inFileOrder, x.timestamp.le y.timestamp = true) :
    (a.append b).records = a.records ++ b.records.map (Record.behind a.seen) := by
  apply Reader.records_eq_of_perm hab
  · intro c
    rw [Reader.stream_append, List.pairwise_append]
    refine ⟨hatimes c, List.pairwise_map.mpr (hbtimes c), ?_⟩
    intro x hx y hy
    obtain ⟨z, hz, rfl⟩ := List.mem_map.mp hy
    exact hcut x ((a.mem_stream c x).mp hx).1 z ((b.mem_stream c z).mp hz).1
  · rw [Reader.inFileOrder_append]
    exact (Reader.records_perm ha).append ((Reader.records_perm hb).map _)
  · rw [List.pairwise_append]
    refine ⟨(Reader.pairwise_records_iff ha).mpr hatimes, ?_, ?_⟩
    · apply List.pairwise_map.mpr
      exact ((Reader.pairwise_records_iff hb).mpr hbtimes).imp fun h => Record.before_behind _ h
    · -- at the cut two times may be equal, and then the places decide
      intro x hx y hy
      obtain ⟨z, hz, rfl⟩ := List.mem_map.mp hy
      have hx' : x ∈ a.inFileOrder := (Reader.records_perm ha).mem_iff.mp hx
      have hz' : z ∈ b.inFileOrder := (Reader.records_perm hb).mem_iff.mp hz
      rw [Record.before_iff]
      refine ⟨hcut x hx' z hz', fun _ => ?_⟩
      have hplace : x.seq < a.seen := ha.below x (List.mem_reverse.mp hx')
      show x.seq ≤ a.seen + z.seq
      omega

end Trace

end SlabWaste
