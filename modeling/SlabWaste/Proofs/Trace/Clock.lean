/-
  SlabWaste.Proofs.Trace.Clock
  ────────────────────────────
  **TIMES AS WRITTEN AND TIMES AS READ.**

  A line writes its time in decimal digits, as many as it likes; a record holds
  the floating-point number nearest to it.  The records are put in order by what
  they hold.  Rounding keeps order, so that is the order of the times as written
  but for one thing: two different times that are read as the same number stay
  in the order of their lines, whichever of them is the earlier one.

      timed_of_load        each record and the line that it came from
      records_due          the order of the records, and when it is exact
      not_due_nanoFile     a trace in which it is not
-/
import SlabWaste.Proofs.Number.Rounding
import SlabWaste.Proofs.Trace.Timeline

namespace SlabWaste.Trace

/-! ## §1. Times as written. -/

/-- The decimal number that a time is. -/
def Stamp.exact (s : Stamp) : Rat :=
  (Numeral.value .ten (s.whole ++ s.fraction) : Rat) / Binary64.tenTo s.fraction.length

theorem Stamp.toBinary64_eq (s : Stamp) : s.toBinary64 = .round s.exact := rfl

theorem Stamp.exact_nonneg (s : Stamp) : 0 ≤ s.exact := by
  unfold exact Binary64.tenTo
  apply div_nonneg
  · exact Nat.cast_nonneg _
  · exact (zpow_pos (by norm_num) _).le

/-- The time of a record line. -/
def Line.stamp? : Line → Option Stamp
  | .record parts _ _ => some parts.stamp
  | _ => none

/-- The times of the record lines of a file, in file order. -/
def stampsOf (lines : List Line) : List Stamp := lines.filterMap Line.stamp?

/-- The time of a record as its line has it.  The position of a record counts the record lines
before its own. -/
def writtenTime (lines : List Line) (a : Record) : Rat :=
  ((stampsOf lines)[a.seq]?.map Stamp.exact).getD 0

/-! ## §2. Every record holds the time of its line. -/

namespace Reader

/-- These are the times of the record lines seen so far, and each record kept holds the one at its
position. -/
structure Timed (r : Reader) (stamps : List Stamp) : Prop where
  seen : r.seen = stamps.length
  held : ∀ a ∈ r.kept, ∃ s, stamps[a.seq]? = some s ∧ a.timestamp = s.toBinary64

/-- A record keeps its place among the times of the file when more follow. -/
theorem Timed.held_append {r : Reader} {stamps : List Stamp} (h : r.Timed stamps)
    (more : List Stamp) {a : Record} (ha : a ∈ r.kept) :
    ∃ s, (stamps ++ more)[a.seq]? = some s ∧ a.timestamp = s.toBinary64 := by
  obtain ⟨s, hs, htime⟩ := h.held a ha
  obtain ⟨hlt, -⟩ := List.getElem?_eq_some_iff.mp hs
  exact ⟨s, by rw [List.getElem?_append_left hlt, hs], htime⟩

/-- Each line with a time adds it, whether its record is kept or not. -/
theorem Timed.step {r : Reader} {stamps : List Stamp} (h : r.Timed stamps) (line : Line) :
    (r.step line).1.Timed (stamps ++ line.stamp?.toList) := by
  -- only a line of a record is stamped and counted
  rcases line.record_or with ⟨parts, event, fields, rfl⟩ | hno
  · show (r.stepRecord parts event fields).1.Timed (stamps ++ [parts.stamp])
    have hseen : r.seen + 1 = (stamps ++ [parts.stamp]).length := by
      rw [List.length_append, List.length_singleton, h.seen]
    rcases r.stepRecord_cases parts event fields with hstep | ⟨record, hrecord, hstep⟩
    · rw [hstep]
      exact ⟨hseen, fun a ha => h.held_append _ ha⟩
    · rw [hstep]
      refine ⟨hseen, ?_⟩
      intro a ha
      rcases List.mem_cons.mp ha with rfl | ha
      · -- the new record has the position after all lines before it
        obtain ⟨_, _, -, -, hsame⟩ := toRecord_eq_ok_iff.mp hrecord
        refine ⟨parts.stamp, ?_, by rw [hsame]⟩
        rw [seq_of_toRecord hrecord, h.seen]
        exact List.getElem?_concat_length
      · exact h.held_append _ ha
  · obtain ⟨hkept, hseen, -⟩ := r.step_of_not_record hno
    have hstamp : line.stamp?.toList = [] := by
      cases line with
      | record parts event fields => exact absurd rfl (hno parts event fields)
      | _ => rfl
    rw [hstamp, List.append_nil]
    exact ⟨by rw [hseen, h.seen], by rw [hkept]; exact h.held⟩

/-- Any number of lines add theirs in order. -/
theorem Timed.steps {r s : Reader} {stamps : List Stamp} (h : r.Timed stamps)
    {lines : List Line} (hsteps : r.steps lines = (s, none)) :
    s.Timed (stamps ++ stampsOf lines) := by
  induction lines generalizing r stamps with
  | nil =>
      injection hsteps with hsteps
      rw [← hsteps]
      show r.Timed (stamps ++ [])
      rw [List.append_nil]
      exact h
  | cons line lines ih =>
      have hstep := h.step line
      unfold Reader.steps at hsteps
      cases hline : r.step line with
      | mk next result =>
          rw [hline] at hstep hsteps
          cases result with
          | error fault => cases hsteps
          | ok found =>
              have hrest := ih hstep hsteps
              have hcons : stampsOf (line :: lines) = line.stamp?.toList ++ stampsOf lines := by
                unfold stampsOf
                rw [List.filterMap_cons]
                cases line.stamp? <;> rfl
              rw [hcons, ← List.append_assoc]
              exact hrest

end Reader

/-- **A trace that is read knows the times of its file.** -/
theorem timed_of_load {fs : FileSystem} {path : String} {keeps : List String} {r : Reader}
    {bytes : List UInt8} (hread : fs.read path = .ok bytes) (h : load fs path keeps = .ok r) :
    r.Timed (stampsOf (linesOf bytes)) := by
  have hstart : ({ keeps } : Reader).Timed [] := ⟨rfl, fun a ha => by cases ha⟩
  obtain ⟨_, hsame, -, hsteps, -⟩ := load_eq_ok_iff.mp h
  rw [hread] at hsame
  injection hsame with hsame
  subst hsame
  exact hstart.steps hsteps

/-- The time that a record holds is that of its line, rounded. -/
theorem Reader.Timed.timestamp_eq {r : Reader} {lines : List Line}
    (h : r.Timed (stampsOf lines)) {a : Record} (ha : a ∈ r.inFileOrder) :
    a.timestamp = .round (writtenTime lines a) ∧ 0 ≤ writtenTime lines a := by
  obtain ⟨s, hs, htime⟩ := h.held a (List.mem_reverse.mp ha)
  have hwritten : writtenTime lines a = s.exact := by
    unfold writtenTime
    rw [hs]
    rfl
  rw [hwritten, ← s.toBinary64_eq]
  exact ⟨htime, s.exact_nonneg⟩

/-! ## §3. The order of the records. -/

/-- A record is due before another: its time as written is earlier, or it is the same and the line
comes first in the file. -/
def Due (time : Record → Rat) (a b : Record) : Prop :=
  time a < time b ∨ (time a = time b ∧ a.seq < b.seq)

/-- All times are whole numbers of units of the last of `k` places, and not too many of them. -/
def Fine (k : Nat) (time : Record → Rat) (records : List Record) : Prop :=
  ∀ a ∈ records, ∃ n : Nat, n < 2 ^ 52 ∧ time a = n / 10 ^ k

/-- Fine times that are read as the same number are the same. -/
theorem Fine.eq_of_round {k : Nat} {time : Record → Rat} {records : List Record}
    (h : Fine k time records) (hk : k ≤ Binary64.mostPlaces) {a b : Record} (ha : a ∈ records)
    (hb : b ∈ records) (hround : Binary64.round (time a) = .round (time b)) :
    time a = time b := by
  obtain ⟨m, hm, hma⟩ := h a ha
  obtain ⟨n, hn, hnb⟩ := h b hb
  rw [hma, hnb] at hround ⊢
  rcases Nat.lt_trichotomy m n with hless | rfl | hless
  · exact absurd hround (Binary64.round_ne_round hk hless hn)
  · rfl
  · exact absurd hround.symm (Binary64.round_ne_round hk hless hm)

/-- Of two records in order one is due before the other, unless their times are read as one. -/
theorem due_of_before {r : Reader} (hsound : r.Sound) {lines : List Line}
    (htimed : r.Timed (stampsOf lines)) {a b : Record} (ha : a ∈ r.inFileOrder)
    (hb : b ∈ r.inFileOrder) (hne : a ≠ b) (h : a.before b = true) :
    Due (writtenTime lines) a b
      ∨ (writtenTime lines b < writtenTime lines a ∧ a.timestamp = b.timestamp
          ∧ a.seq < b.seq) := by
  obtain ⟨hatime, hazero⟩ := htimed.timestamp_eq ha
  obtain ⟨hbtime, hbzero⟩ := htimed.timestamp_eq hb
  obtain ⟨hle, hseq⟩ := (a.before_iff b).mp h
  by_cases hsame : a.timestamp = b.timestamp
  · -- read as one time, the two are in file order, whichever was written as the earlier one
    have hplace : a.seq ≠ b.seq := fun heq => hne (hsound.eq_of_seq ha hb heq)
    have hless : a.seq < b.seq := lt_of_le_of_ne (hseq hsame) hplace
    rcases lt_trichotomy (writtenTime lines a) (writtenTime lines b) with htime | htime | htime
    · exact Or.inl (Or.inl htime)
    · exact Or.inl (Or.inr ⟨htime, hless⟩)
    · exact Or.inr ⟨htime, hsame, hless⟩
  · -- were the second one written earlier or at the same time, it would be read so
    left
    left
    by_contra hnot
    have hback : b.timestamp.le a.timestamp = true := by
      rw [hatime, hbtime]
      exact Binary64.round_le_round hbzero (not_lt.mp hnot)
    exact hsame (Binary64.le_antisymm hle hback)

/-- **The order of the records is that of the times as written, as far as these are told apart.**
If the records of each CPU are in order of the times that their lines have, then every kept record
comes out once, and each before all that it is due before; only where an earlier time is read as
the same number as a later one does the place in the file decide.  Times that are fewer than
`2 ^ 52` units of their last place are always told apart. -/
theorem records_due {fs : FileSystem} {path : String} {keeps : List String} {r : Reader}
    {bytes : List UInt8} (hread : fs.read path = .ok bytes) (hload : load fs path keeps = .ok r)
    (htimes : ∀ c, (r.stream c).Pairwise fun a b =>
      writtenTime (linesOf bytes) a ≤ writtenTime (linesOf bytes) b) :
    let time := writtenTime (linesOf bytes)
    r.records.Perm r.inFileOrder
      ∧ (r.records.Pairwise fun a b =>
          Due time a b ∨ (time b < time a ∧ a.timestamp = b.timestamp ∧ a.seq < b.seq))
      ∧ ((∃ k ≤ Binary64.mostPlaces, Fine k time r.inFileOrder) → r.records.Pairwise (Due time)) := by
  intro time
  have hsound := sound_of_load hload
  have htimed := timed_of_load hread hload
  have hperm := Reader.records_perm hsound
  -- what is in order as written is in order as read
  have hsorted : r.records.Pairwise fun a b => a.before b = true := by
    rw [Reader.pairwise_records_iff hsound]
    intro c
    apply (htimes c).imp_of_mem
    intro a b ha hb hle
    obtain ⟨hatime, hazero⟩ := htimed.timestamp_eq ((r.mem_stream c a).mp ha).1
    obtain ⟨hbtime, -⟩ := htimed.timestamp_eq ((r.mem_stream c b).mp hb).1
    rw [hatime, hbtime]
    exact Binary64.round_le_round hazero hle
  have hnodup : r.records.Nodup := hperm.nodup_iff.mpr hsound.nodup
  have hdue : r.records.Pairwise fun a b =>
      Due time a b ∨ (time b < time a ∧ a.timestamp = b.timestamp ∧ a.seq < b.seq) := by
    apply (hsorted.and hnodup).imp_of_mem
    intro a b ha hb hab
    exact due_of_before hsound htimed (hperm.mem_iff.mp ha) (hperm.mem_iff.mp hb) hab.2 hab.1
  refine ⟨hperm, hdue, ?_⟩
  rintro ⟨k, hk, hfine⟩
  apply hdue.imp_of_mem
  intro a b ha hb hab
  rcases hab with hab | ⟨hless, hsame, -⟩
  · exact hab
  · have ha := hperm.mem_iff.mp ha
    have hb := hperm.mem_iff.mp hb
    rw [(htimed.timestamp_eq ha).1, (htimed.timestamp_eq hb).1] at hsame
    exact absurd (hfine.eq_of_round hk ha hb hsame) hless.ne'

/-- A trace in nanoseconds: its second line is one of them earlier than its first, and from another
CPU. -/
def nanoText (seconds : String) : List UInt8 :=
  ("cc1-1 [1] " ++ seconds ++ ".000000002: kfree: ptr=1
ld-2 [0] " ++ seconds ++ ".000000001: kfree: ptr=2
").toList.flatMap String.utf8EncodeChar

def nanoFile (seconds : String) : FileSystem where
  read _ := .ok (nanoText seconds)
  refusal? _ := none

/-- The reader that has read it at so many seconds. -/
def nanoRead (seconds : Nat) : Reader where
  keeps := Family.all.eventNames
  seen := 2
  kept :=
    [{ event := "kfree", fields := [("ptr", "2")], cpu := 0, task := "ld", pid := 2, seq := 1,
       timestamp := .round (seconds + 1 / 10 ^ 9) },
     { event := "kfree", fields := [("ptr", "1")], cpu := 1, task := "cc1", pid := 1, seq := 0,
       timestamp := .round (seconds + 2 / 10 ^ 9) }]

/-- At ten seconds the second line is due first. -/
theorem due_nanoFile :
    load (nanoFile "10") "trace" Family.all.eventNames = .ok (nanoRead 10)
      ∧ (nanoRead 10).records.Pairwise (Due (writtenTime (linesOf (nanoText "10")))) := by
  have hload : load (nanoFile "10") "trace" Family.all.eventNames = .ok (nanoRead 10) :=
    eq_ok_of_toOption (by decide +kernel)
  have hstamps : stampsOf (linesOf (nanoText "10"))
      = [⟨[1, 0], [0, 0, 0, 0, 0, 0, 0, 0, 2]⟩, ⟨[1, 0], [0, 0, 0, 0, 0, 0, 0, 0, 1]⟩] := by
    decide +kernel
  have htimes : ∀ c, ((nanoRead 10).stream c).Pairwise fun a b =>
      writtenTime (linesOf (nanoText "10")) a ≤ writtenTime (linesOf (nanoText "10")) b := by
    apply Reader.pairwise_stream
    unfold writtenTime
    rw [hstamps]
    decide +kernel
  obtain ⟨-, -, hdue⟩ := records_due rfl hload htimes
  refine ⟨hload, hdue ⟨9, by decide, ?_⟩⟩
  -- both times are whole numbers of nanoseconds, few enough to be told apart
  have hunits : ∀ a ∈ (nanoRead 10).inFileOrder, (writtenTime (linesOf (nanoText "10")) a)
      = ((10000000002 - a.seq : Nat) : Rat) / 10 ^ 9 := by
    unfold writtenTime
    rw [hstamps]
    decide +kernel
  intro a ha
  refine ⟨10000000002 - a.seq, ?_, hunits a ha⟩
  omega

/-- **At ten million seconds the two times are read as one**, and the second line comes out last
although its time is the earlier one. -/
theorem not_due_nanoFile :
    load (nanoFile "10000000") "trace" Family.all.eventNames = .ok (nanoRead 10000000)
      ∧ (∀ c, ((nanoRead 10000000).stream c).Pairwise fun a b =>
          writtenTime (linesOf (nanoText "10000000")) a
            ≤ writtenTime (linesOf (nanoText "10000000")) b)
      ∧ (nanoRead 10000000).records.map (·.seq) = [0, 1]
      ∧ ¬ (nanoRead 10000000).records.Pairwise fun a b =>
          writtenTime (linesOf (nanoText "10000000")) a
            ≤ writtenTime (linesOf (nanoText "10000000")) b := by
  have hload : load (nanoFile "10000000") "trace" Family.all.eventNames = .ok (nanoRead 10000000) :=
    eq_ok_of_toOption (by decide +kernel)
  have hstamps : stampsOf (linesOf (nanoText "10000000"))
      = [⟨[1, 0, 0, 0, 0, 0, 0, 0], [0, 0, 0, 0, 0, 0, 0, 0, 2]⟩,
        ⟨[1, 0, 0, 0, 0, 0, 0, 0], [0, 0, 0, 0, 0, 0, 0, 0, 1]⟩] := by
    decide +kernel
  -- the two times are read as one, so the records come out as the file has them
  have hread : (nanoRead 10000000).records = (nanoRead 10000000).inFileOrder := by
    apply Reader.records_eq_of_perm (sound_of_load hload) _ (List.Perm.refl _)
    · decide +kernel
    · apply Reader.pairwise_stream
      decide +kernel
  rw [hread]
  refine ⟨hload, ?_, rfl, ?_⟩
  · apply Reader.pairwise_stream
    unfold writtenTime
    rw [hstamps]
    decide +kernel
  · unfold writtenTime
    rw [hstamps]
    decide +kernel

end SlabWaste.Trace
