/-
  SlabWaste.Proofs.Trace.Keeping
  ──────────────────────────────
  **READING FOR FEWER EVENTS.**

  A reader may be told to keep the events of one family, or more than it needs
  and leave the choice to whoever looks at them.  What it says of losses and of
  places in the file is the same either way, and the records are those that the
  other reader keeps, less some:

      step_narrow         one line
      load_narrow         a whole file
      records_narrow      the records in order of time
-/
import SlabWaste.Proofs.Trace.Timeline

namespace SlabWaste.Trace

namespace Reader

/-! ## §1. A reader that keeps less. -/

/-- The reader as it would be had it been told to keep these events only. -/
def narrow (r : Reader) (names : List String) : Reader :=
  { r with keeps := names, kept := r.kept.filter (names.contains ·.event) }

/-- Fewer names leave out records, and keep the order of the others, … -/
theorem inFileOrder_narrow (r : Reader) (names : List String) :
    (r.narrow names).inFileOrder = r.inFileOrder.filter (names.contains ·.event) := by
  unfold inFileOrder narrow
  rw [List.filter_reverse]

/-- … on every CPU. -/
theorem stream_narrow (r : Reader) (names : List String) (c : Nat) :
    (r.narrow names).stream c = (r.stream c).filter (names.contains ·.event) := by
  unfold stream
  rw [inFileOrder_narrow, List.filter_filter, List.filter_filter]
  simp only [Bool.and_comm]

/-! ## §2. One line. -/

/-- What a reader keeps, and has kept, matters to no line that is no record. -/
theorem step_with_kept (r : Reader) {line : Line}
    (h : ∀ parts event fields, line ≠ .record parts event fields) (names : List String)
    (kept : List Record) :
    { r with keeps := names, kept := kept }.step line
      = ({ (r.step line).1 with keeps := names, kept := kept }, (r.step line).2) := by
  -- only the line of a record asks what is kept or adds to it
  cases line with
  | tracer name =>
      simp only [step]
      split
      · rfl
      · rfl
  | entries few many =>
      show stepEntries _ few many = ({ (r.stepEntries few many).1 with keeps := names, kept := kept },
        (r.stepEntries few many).2)
      unfold stepEntries
      cases count many with
      | error fault => rfl
      | ok written =>
          cases count few with
          | error fault => rfl
          | ok entries =>
              by_cases hless : entries < written
              · simp only [if_pos hless]
              · simp only [if_neg hless]
  | lost digits =>
      simp only [step]
      cases count digits with
      | error fault => rfl
      | ok n => rfl
  | nameless bare shown =>
      simp only [step]
      split
      · rfl
      · rfl
  | record parts event fields => exact absurd rfl (h parts event fields)
  | other => rfl

/-- A line changes nothing of what is to be kept. -/
theorem keeps_step (r : Reader) (line : Line) : (r.step line).1.keeps = r.keeps := by
  rcases line.record_or with ⟨parts, event, fields, rfl⟩ | hno
  · show (r.stepRecord parts event fields).1.keeps = r.keeps
    rcases r.stepRecord_cases parts event fields with h | ⟨record, -, h⟩
    · rw [h]
    · rw [h]
  · have hframe := r.step_with_kept hno r.keeps r.kept
    exact congrArg (·.1.keeps) hframe

/-- A record that the reader takes is taken by one that keeps less: it keeps the record or leaves
it out, by the name of its event. -/
theorem stepRecord_narrow {r s : Reader} {names : List String} (hnames : ∀ x ∈ names, x ∈ r.keeps)
    {parts : Parts} {event : String} {fields : List Char} {found : Option Record}
    (h : r.stepRecord parts event fields = (s, .ok found)) :
    (r.narrow names).stepRecord parts event fields
      = (s.narrow names, .ok (found.filter (names.contains ·.event))) := by
  unfold stepRecord at h ⊢
  by_cases hkept : r.keeps.contains event = true
  · rw [if_pos hkept] at h
    cases hrecord : parts.toRecord event fields r.seen with
    | error fault =>
        rw [hrecord] at h
        cases h
    | ok record =>
        rw [hrecord] at h
        injection h with hs hfound
        injection hfound with hfound
        subst hs hfound
        obtain ⟨_, _, -, -, hsame⟩ := toRecord_eq_ok_iff.mp hrecord
        have hevent : record.event = event := by rw [hsame]
        by_cases hname : names.contains event = true
        · rw [if_pos (show (r.narrow names).keeps.contains event = true from hname)]
          simp only [show (r.narrow names).seen = r.seen from rfl, hrecord]
          unfold narrow
          rw [List.filter_cons_of_pos (by rw [hevent]; exact hname),
            Option.filter_some_pos (by rw [hevent]; exact hname)]
        · rw [if_neg (show ¬ (r.narrow names).keeps.contains event = true from hname)]
          unfold narrow
          rw [List.filter_cons_of_neg (by rw [hevent]; exact hname),
            Option.filter_some_neg (by rw [hevent]; exact Bool.eq_false_iff.mpr hname)]
  · -- what the wide reader leaves out, the narrow one leaves out too
    have hname : ¬ names.contains event = true := by
      rw [List.contains_iff_mem] at hkept ⊢
      exact fun hmem => hkept (hnames event hmem)
    rw [if_neg hkept] at h
    injection h with hs hfound
    injection hfound with hfound
    subst hs hfound
    rw [if_neg (show ¬ (r.narrow names).keeps.contains event = true from hname)]
    rfl

/-- A line that the reader takes is taken by one that keeps less, which goes on being the one that
keeps less. -/
theorem step_narrow {r s : Reader} {names : List String} (hnames : ∀ x ∈ names, x ∈ r.keeps)
    {line : Line} {found : Option Record} (h : r.step line = (s, .ok found)) :
    ∃ fewer, (r.narrow names).step line = (s.narrow names, .ok fewer) := by
  rcases line.record_or with ⟨parts, event, fields, rfl⟩ | hno
  · exact ⟨_, stepRecord_narrow hnames h⟩
  · have hkept := (r.step_of_not_record hno).1
    have hframe := r.step_with_kept hno names (r.kept.filter (names.contains ·.event))
    rw [h] at hkept hframe
    refine ⟨found, ?_⟩
    show step { r with keeps := names, kept := _ } line = _
    rw [hframe, ← hkept]
    rfl

/-! ## §3. Whole files. -/

/-- **A reader with fewer names goes the same way**, with fewer records. -/
theorem steps_narrow {r s : Reader} {names : List String} (hnames : ∀ x ∈ names, x ∈ r.keeps)
    {lines : List Line} (h : r.steps lines = (s, none)) :
    (r.narrow names).steps lines = (s.narrow names, none) := by
  induction lines generalizing r with
  | nil =>
      injection h with h
      rw [← h]
      rfl
  | cons line lines ih =>
      unfold steps at h ⊢
      cases hstep : r.step line with
      | mk next result =>
          rw [hstep] at h
          cases result with
          | error fault => cases h
          | ok found =>
              obtain ⟨fewer, hfewer⟩ := step_narrow hnames hstep
              have hkeeps := r.keeps_step line
              rw [hstep] at hkeeps
              rw [hfewer]
              exact ih (by rw [hkeeps]; exact hnames) h

end Reader

/-- **A file that a reader can read is read by one that keeps fewer events**, and what they read
differs in the records kept only. -/
theorem load_narrow {fs : FileSystem} {path : String} {names keeps : List String} {r : Reader}
    (hnames : ∀ x ∈ names, x ∈ keeps) (h : load fs path keeps = .ok r) :
    load fs path names = .ok (r.narrow names) := by
  obtain ⟨bytes, hread, hbinary, hsteps, hseen⟩ := load_eq_ok_iff.mp h
  have hnarrow : Reader.steps { keeps := names } (linesOf bytes) = (r.narrow names, none) :=
    Reader.steps_narrow hnames hsteps
  exact load_eq_ok_iff.mpr ⟨bytes, hread, hbinary, hnarrow, hseen⟩

/-! ## §4. In order of time. -/

/-- **Leaving records out before they are merged or after makes no difference**, if those of each
CPU are in order of time. -/
theorem Reader.records_narrow {r : Reader} (h : r.Sound) {names : List String}
    (hnarrow : (r.narrow names).Sound)
    (htimes : ∀ c, (r.stream c).Pairwise fun a b => a.timestamp.le b.timestamp = true) :
    (r.narrow names).records = r.records.filter (names.contains ·.event) := by
  have hsorted := (pairwise_records_iff h).mpr htimes
  -- the records with others left out are an arrangement in order of those that the reader keeps
  have hperm : (r.records.filter (names.contains ·.event)).Perm (r.narrow names).inFileOrder := by
    rw [inFileOrder_narrow]
    exact (records_perm h).filter _
  apply records_eq_of_perm hnarrow _ hperm (hsorted.filter _)
  intro c
  rw [stream_narrow]
  exact (htimes c).filter _

end SlabWaste.Trace
