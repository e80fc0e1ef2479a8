/-
  SlabWaste.Proofs.Ring.Partition
  ───────────────────────────────
  **THE RINGS PARTITION THE BYTES.**

  A chart is drawn caller by caller.  Each slice is the section of one caller and
  the parts of it around that section:

      Slice.Fits        a slice shows its caller
      Consecutive       every section begins where the one before it ends

  The parts of a caller come from three figures that are kept apart.  They add up
  to what is drawn because a report brings the waste up to date, and every division
  has a divisor because only callers with something to show are drawn:

      whole_of_parts          the parts of a measure add up to it
      callerSection_eq_ok     a section of the inner ring
      outerSections_of_split  the sections around it
      sectionsFrom_eq_ok      all of them, by induction on the callers

  Main result: `sections_partition`.
-/
import SlabWaste.Proofs.Number.Exact
import SlabWaste.Report.Table
import SlabWaste.Ring.Section
import Mathlib.Algebra.Order.BigOperators.Group.List

namespace SlabWaste.Ring

/-! ## §1. Measures. -/

/-- The bytes of a pair are below a power of two. -/
structure Moderate (k : Nat) (b : Bytes) : Prop where
  granted : |b.granted| < 2 ^ k
  requested : |b.requested| < 2 ^ k

/-- All bytes of a caller are below a power of two. -/
structure ModerateUsage (k : Nat) (u : Usage) : Prop where
  total : Moderate k u.total
  current : Moderate k u.current
  peak : Moderate k u.peak

/-- What is moderate stays so for a wider bound. -/
theorem Moderate.mono {j k : Nat} {b : Bytes} (h : Moderate j b) (hjk : j ≤ k) : Moderate k b := by
  have hpower : (2 : Int) ^ j ≤ 2 ^ k := pow_le_pow_right₀ (by decide) hjk
  exact ⟨h.granted.trans_le hpower, h.requested.trans_le hpower⟩

/-- The waste of moderate figures is less than twice the bound. -/
theorem Moderate.abs_waste_lt {k : Nat} {b : Bytes} (h : Moderate k b) :
    |b.waste| < 2 ^ (k + 1) := by
  have hgranted := abs_lt.mp h.granted
  have hrequested := abs_lt.mp h.requested
  have hpower : (2 : Int) ^ (k + 1) = 2 ^ k + 2 ^ k := by ring
  rw [hpower, abs_lt]
  unfold Bytes.waste
  omega

namespace Measure

variable {m : Measure} {u : Usage} {requested wasted : Int}

/-- A caller is split just if the measure has parts and neither of them is negative. -/
theorem split_eq_some_iff :
    m.split u = some (requested, wasted)
      ↔ m.parts? u = some (requested, wasted) ∧ 0 ≤ requested ∧ 0 ≤ wasted := by
  unfold split
  cases m.parts? u with
  | none => simp
  | some parts =>
      obtain ⟨r, w⟩ := parts
      by_cases hnegative : r < 0 ∨ w < 0
      · simp [hnegative]
        omega
      · simp [hnegative]
        omega

/-- **The parts of a measure add up to it**, once the waste is up to date. -/
theorem whole_of_parts (hsettled : u.settle = u) (h : m.parts? u = some (requested, wasted)) :
    requested + wasted = m.size u := by
  have hwaste : u.waste = u.current.waste := congrArg Usage.waste hsettled.symm
  have hpeak : u.peakWaste = u.peak.waste := congrArg Usage.peakWaste hsettled.symm
  have hadd : ∀ b : Bytes, b.requested + b.waste = b.granted := by
    intro b
    unfold Bytes.waste
    omega
  -- once settled, the waste that is kept is that of the same bytes
  cases m with
  | current =>
      injection h with h
      injection h with hrequested hwasted
      rw [← hrequested, ← hwasted, hwaste]
      exact hadd u.current
  | total =>
      injection h with h
      injection h with hrequested hwasted
      rw [← hrequested, ← hwasted]
      exact hadd u.total
  | peak =>
      injection h with h
      injection h with hrequested hwasted
      rw [← hrequested, ← hwasted, hpeak]
      exact hadd u.peak
  | waste => cases h

/-- The size of a caller whose figures are moderate is less than twice the bound. -/
theorem size_lt {k : Nat} (hsettled : u.settle = u) (h : ModerateUsage k u) :
    m.size u < 2 ^ (k + 1) := by
  have hgranted : ∀ b, Moderate k b → b.granted < 2 ^ (k + 1) := by
    intro b hb
    exact (abs_lt.mp (hb.mono (Nat.le_succ k)).granted).2
  cases m with
  | current => exact hgranted u.current h.current
  | total => exact hgranted u.total h.total
  | peak => exact hgranted u.peak h.peak
  | waste =>
      have hwaste : u.waste = u.current.waste := congrArg Usage.waste hsettled.symm
      show u.waste < _
      rw [hwaste]
      exact (abs_lt.mp h.current.abs_waste_lt).2

end Measure

/-! ## §2. Slices. -/

/-- A caller with its sections: its own one and those around it. -/
structure Slice where
  caller : Caller
  own : Section
  around : List Section

/-- The sections of a slice in the order of drawing. -/
def Slice.sections (s : Slice) : List Section := s.own :: s.around

/-- Each section begins where the one before it ends, the first at a given angle. -/
inductive Consecutive : Binary64 → List Section → Prop where
  | nil {start : Binary64} : Consecutive start []
  | cons {s : Section} {rest : List Section} (h : Consecutive s.stop rest) :
      Consecutive s.start (s :: rest)

/-- The section of a caller in the inner ring, `total` being the full turn.  The angle is the exact
share of the full turn, rounded once. -/
structure Shows (m : Measure) (total : Int) (c : Caller) (own : Section) : Prop where
  name : own.name = c.name
  size : own.size = m.size c.usage
  level : own.level = .inner
  divisor : total ≠ 0
  angle : Binary64.quotient? (own.size * 360) total = some own.angle

/-- A part of a caller's section, of a given size and from a given angle on.  Its angle is its share
of the angle of the whole. -/
structure Takes (own : Section) (name : String) (size : Int) (start : Binary64) (part : Section) :
    Prop where
  name : part.name = name
  size : part.size = size
  level : part.level = .outer
  start : part.start = start
  angle : ∃ share whole, Binary64.ofInt? part.size = some share ∧ Binary64.ofInt? own.size = some whole
    ∧ whole ≠ .finite 0 ∧ part.angle = share * own.angle / whole

/-- The sections around that of a caller are those of the requested and the wasted part: a section
without a name from where the caller's begins, and after it one for the waste, if there is any. -/
inductive Splits (own : Section) (requested wasted : Int) : List Section → Prop where
  | whole {used : Section} (h : Takes own "" requested own.start used) (hnone : wasted = 0) :
      Splits own requested wasted [used]
  | both {used unused : Section} (h : Takes own "" requested own.start used) (hsome : 0 < wasted)
      (hunused : Takes own "waste" wasted used.stop unused) :
      Splits own requested wasted [used, unused]

/-- A slice shows its caller: its own section the measure, and the sections around it the parts of
the measure, if it has such parts and neither is negative. -/
structure Slice.Fits (m : Measure) (total : Int) (s : Slice) : Prop where
  own : Shows m total s.caller s.own
  outer : ∀ part ∈ s.around, part.level = .outer
  around_ne_nil_iff : s.around ≠ [] ↔ ∃ requested wasted,
    m.parts? s.caller.usage = some (requested, wasted) ∧ 0 ≤ requested ∧ 0 ≤ wasted
  splits : ∀ requested wasted, m.parts? s.caller.usage = some (requested, wasted) →
    0 ≤ requested → 0 ≤ wasted → Splits s.own requested wasted s.around
  sum : s.around ≠ [] → (s.around.map Section.size).sum = s.own.size

/-! ## §3. The sections of one caller. -/

/-- A share of a full turn is no more than a full turn. -/
theorem quotient?_of_le {size total : Int} (hsize : 0 ≤ size) (htotal : size ≤ total) :
    ∃ angle, Binary64.quotient? (size * 360) total = some angle := by
  refine ⟨_, Binary64.roundFinite?_of_le ?_ ?_⟩
  · have htotal' : (0 : Rat) ≤ total := by exact_mod_cast hsize.trans htotal
    have hsize' : (0 : Rat) ≤ ((size * 360 : Int) : Rat) := by
      exact_mod_cast mul_nonneg hsize (by decide)
    exact div_nonneg hsize' htotal'
  · have hturn : ((size * 360 : Int) : Rat) / total ≤ 360 := by
      apply div_le_of_le_mul₀
      · exact_mod_cast hsize.trans htotal
      · decide
      · exact_mod_cast by omega
    calc ((size * 360 : Int) : Rat) / total ≤ 360 := hturn
      _ ≤ (2 : Rat) ^ (9 : Int) := by norm_num
      _ ≤ (2 : Rat) ^ (1023 : Int) := zpow_le_zpow_right₀ one_le_two (by decide)

/-- **The section of a caller is made**, and shows its share of the whole. -/
theorem callerSection_eq_ok (m : Measure) (c : Caller) {total : Int} (start : Binary64)
    (hsize : 0 < m.size c.usage) (htotal : m.size c.usage ≤ total) :
    ∃ own, callerSection c.name (m.size c.usage) total start = .ok own ∧ own.start = start
      ∧ Shows m total c own := by
  obtain ⟨angle, hangle⟩ := quotient?_of_le hsize.le htotal
  refine ⟨⟨c.name, m.size c.usage, .inner, start, angle⟩, ?_, rfl, rfl, rfl, rfl, ?_, hangle⟩
  · unfold callerSection
    rw [hangle]
    rfl
  · exact (hsize.trans_le htotal).ne'

variable {k : Nat}

/-- **The section of a part is made**, and takes its share of the caller's angle. -/
theorem partSection_eq_ok (hk : k ≤ 1023) (name : String) {own : Section} {size : Int}
    (start : Binary64) (hsize : 0 ≤ size) (hle : size ≤ own.size) (hpos : 0 < own.size)
    (hlarge : own.size ≤ 2 ^ k) :
    ∃ part, partSection name size own.size own.angle start = .ok part
      ∧ Takes own name size start part := by
  obtain ⟨share, hshare⟩ : ∃ share, Binary64.ofInt? size = some share :=
    ⟨_, Binary64.ofInt?_of_nonneg hk hsize (hle.trans hlarge)⟩
  obtain ⟨whole, hwhole, hne⟩ := Binary64.ofInt?_of_pos hk hpos hlarge
  let part : Section := ⟨name, size, .outer, start, share * own.angle / whole⟩
  refine ⟨part, ?_, rfl, rfl, rfl, rfl, share, whole, hshare, hwhole, hne, rfl⟩
  unfold partSection
  rw [hshare, hwhole]
  rfl

/-- **A caller that is split has its parts around it**, as far as there is anything in them. -/
theorem outerSections_of_split (hk : k ≤ 1023) {own : Section} {requested wasted : Int}
    (hrequested : 0 ≤ requested) (hwasted : 0 ≤ wasted) (hwhole : requested + wasted = own.size)
    (hpos : 0 < own.size) (hlarge : own.size ≤ 2 ^ k) :
    ∃ around, outerSections own (some (requested, wasted)) = .ok around
      ∧ Splits own requested wasted around := by
  obtain ⟨used, hused, hfits⟩ :=
    partSection_eq_ok hk "" own.start hrequested (by omega) hpos hlarge
  have hdrawn : ¬ requested + wasted ≤ 0 := by omega
  unfold outerSections
  simp only [if_neg hdrawn]
  rw [hwhole, hused]
  -- the part of the waste is drawn only where there is some
  by_cases hnone : wasted ≤ 0
  · refine ⟨[used], ?_, .whole hfits (by omega)⟩
    show (if wasted ≤ 0 then _ else _) = _
    rw [if_pos hnone]
    rfl
  · obtain ⟨unused, hunused, hrest⟩ :=
      partSection_eq_ok hk "waste" used.stop hwasted (by omega) hpos hlarge
    refine ⟨[used, unused], ?_, .both hfits (by omega) hrest⟩
    show (if wasted ≤ 0 then _ else _) = _
    rw [if_neg hnone, hunused]
    rfl

namespace Splits

variable {own : Section} {requested wasted : Int} {around : List Section}

/-- One part at least has something in it. -/
theorem ne_nil (h : Splits own requested wasted around) : around ≠ [] := by
  cases h with
  | whole => exact List.cons_ne_nil _ _
  | both => exact List.cons_ne_nil _ _

theorem outer (h : Splits own requested wasted around) : ∀ part ∈ around, part.level = .outer := by
  cases h with
  | whole h _ => exact List.forall_mem_singleton.mpr h.level
  | both h _ hunused =>
      exact List.forall_mem_cons.mpr ⟨h.level, List.forall_mem_singleton.mpr hunused.level⟩

/-- The parts add up to what was split. -/
theorem sum (h : Splits own requested wasted around) :
    (around.map Section.size).sum = requested + wasted := by
  cases h with
  | whole h hnone => simp [h.size, hnone]
  | both h _ hunused => simp [h.size, hunused.size]

end Splits

/-- **One caller**: its section and those around it. -/
theorem exists_slice (m : Measure) {c : Caller} {total : Int} (start : Binary64) (hk : k ≤ 1023)
    (hsettled : c.usage.settle = c.usage) (hsize : 0 < m.size c.usage)
    (hlarge : m.size c.usage ≤ 2 ^ k) (htotal : m.size c.usage ≤ total) :
    ∃ s : Slice, s.caller = c ∧ s.own.start = start ∧ s.Fits m total
      ∧ callerSection c.name (m.size c.usage) total start = .ok s.own
      ∧ outerSections s.own (m.split c.usage) = .ok s.around := by
  obtain ⟨own, hown, hstart, hshows⟩ := callerSection_eq_ok m c start hsize htotal
  have hsizeOwn := hshows.size
  -- a caller that is not split has nothing around it, and then it has no two such parts
  cases hsplit : m.split c.usage with
  | none =>
      have hnone : ∀ requested wasted, m.parts? c.usage = some (requested, wasted) →
          0 ≤ requested → 0 ≤ wasted → False := by
        intro requested wasted hparts hrequested hwasted
        rw [Measure.split_eq_some_iff.mpr ⟨hparts, hrequested, hwasted⟩] at hsplit
        cases hsplit
      refine ⟨⟨c, own, []⟩, rfl, hstart, ⟨hshows, nofun, ?_, ?_, nofun⟩, hown, rfl⟩
      · constructor
        · exact fun h => absurd rfl h
        · rintro ⟨requested, wasted, hparts, hrequested, hwasted⟩
          exact (hnone requested wasted hparts hrequested hwasted).elim
      · intro requested wasted hparts hrequested hwasted
        exact (hnone requested wasted hparts hrequested hwasted).elim
  | some parts =>
      obtain ⟨requested, wasted⟩ := parts
      obtain ⟨hparts, hrequested, hwasted⟩ := Measure.split_eq_some_iff.mp hsplit
      have hwhole : requested + wasted = own.size := by
        rw [hsizeOwn]
        exact Measure.whole_of_parts hsettled hparts
      obtain ⟨around, haround, hsplits⟩ := outerSections_of_split hk hrequested hwasted hwhole
        (by omega) (by omega)
      refine ⟨⟨c, own, around⟩, rfl, hstart, ⟨hshows, hsplits.outer, ?_, ?_, ?_⟩, hown, haround⟩
      · exact ⟨fun _ => ⟨requested, wasted, hparts, hrequested, hwasted⟩, fun _ => hsplits.ne_nil⟩
      · intro r w hrw _ _
        rw [hparts] at hrw
        cases hrw
        exact hsplits
      · intro _
        rw [hsplits.sum, hwhole]

/-! ## §4. All callers. -/

/-- **All callers**, from any angle on: the sections are those of the slices, one after the other. -/
theorem sectionsFrom_eq_ok (m : Measure) {total : Int} (hk : k ≤ 1023) {callers : List Caller}
    (hsettled : ∀ c ∈ callers, c.usage.settle = c.usage)
    (hpos : ∀ c ∈ callers, 0 < m.size c.usage) (hlarge : ∀ c ∈ callers, m.size c.usage ≤ 2 ^ k)
    (htotal : ∀ c ∈ callers, m.size c.usage ≤ total) (start : Binary64) :
    ∃ slices : List Slice, sectionsFrom m total start callers = .ok (slices.flatMap Slice.sections)
      ∧ slices.map Slice.caller = callers ∧ Consecutive start (slices.map Slice.own)
      ∧ ∀ s ∈ slices, s.Fits m total := by
  -- the next caller starts where this one stops, so the start is not fixed
  induction callers generalizing start with
  | nil => exact ⟨[], rfl, rfl, .nil, fun _ hs => absurd hs List.not_mem_nil⟩
  | cons c rest ih =>
      rw [List.forall_mem_cons] at hsettled hpos hlarge htotal
      obtain ⟨s, hcaller, hstart, hfits, hown, haround⟩ :=
        exists_slice m start hk hsettled.1 hpos.1 hlarge.1 htotal.1
      obtain ⟨slices, hslices, hcallers, hconsecutive, hall⟩ :=
        ih hsettled.2 hpos.2 hlarge.2 htotal.2 s.own.stop
      refine ⟨s :: slices, ?_, ?_, ?_, List.forall_mem_cons.mpr ⟨hfits, hall⟩⟩
      · rw [sectionsFrom, hown]
        show (do
          let outer ← outerSections s.own (m.split c.usage)
          let others ← sectionsFrom m total s.own.stop rest
          return s.own :: outer ++ others) = _
        rw [haround, hslices]
        rfl
      · rw [List.map_cons, hcaller, hcallers]
      · rw [List.map_cons, ← hstart]
        exact .cons hconsecutive

/-- The inner ring has one section for each slice. -/
theorem filter_inner_sections {m : Measure} {total : Int} {slices : List Slice}
    (h : ∀ s ∈ slices, s.Fits m total) :
    (slices.flatMap Slice.sections).filter (·.level = .inner) = slices.map Slice.own := by
  induction slices with
  | nil => rfl
  | cons s slices ih =>
      rw [List.forall_mem_cons] at h
      have hnone : s.around.filter (fun part => part.level = .inner) = [] := by
        rw [List.filter_eq_nil_iff]
        intro part hpart
        rw [h.1.outer part hpart]
        decide
      have hown : (s.own.level = .inner) := h.1.own.level
      rw [List.flatMap_cons, List.filter_append, ih h.2, Slice.sections, List.filter_cons_of_pos
        (by simpa using hown), hnone]
      rfl

/-- There are no sections just if there are no slices. -/
theorem flatMap_sections_eq_nil_iff {slices : List Slice} :
    slices.flatMap Slice.sections = [] ↔ slices = [] := by
  cases slices with
  | nil => simp
  | cons s slices => simp [Slice.sections]

/-- The callers that a chart shows. -/
def shown (m : Measure) (callers : List Caller) : List Caller :=
  callers.filter fun c => decide (0 < m.size c.usage)

/-- What the full turn of a chart stands for. -/
def fullTurn (m : Measure) (callers : List Caller) : Int :=
  ((shown m callers).map fun c => m.size c.usage).sum

/-- The sections of a chart, by the callers that are shown. -/
theorem sections_eq (m : Measure) (callers : List Caller) :
    sections m callers = sectionsFrom m (fullTurn m callers) (.finite 0) (shown m callers) := by
  unfold fullTurn
  rw [List.sum_eq_foldl]
  rfl

/-- Callers that are shown have a size. -/
theorem pos_of_mem_shown {m : Measure} {callers : List Caller} :
    ∀ c ∈ shown m callers, 0 < m.size c.usage :=
  fun _ hc => of_decide_eq_true (List.mem_filter.mp hc).2

/-- A caller that is shown has no more than the full turn. -/
theorem size_le_fullTurn {m : Measure} {callers : List Caller} :
    ∀ c ∈ shown m callers, m.size c.usage ≤ fullTurn m callers := by
  intro c hc
  apply List.single_le_sum
  · exact List.forall_mem_map.mpr fun c hc => (pos_of_mem_shown c hc).le
  · exact List.mem_map_of_mem hc

/-- Nothing is shown just if nothing has a size. -/
theorem shown_eq_nil_iff {m : Measure} {callers : List Caller} :
    shown m callers = [] ↔ ∀ c ∈ callers, m.size c.usage ≤ 0 := by
  unfold shown
  rw [List.filter_eq_nil_iff]
  simp

/-- The callers of a report are callers with their waste up to date. -/
theorem mem_ranked_iff {rows : List Caller} {c : Caller} :
    c ∈ Report.ranked rows ↔ ∃ row ∈ rows, row.settle = c :=
  (List.mergeSort_perm _ _).mem_iff.trans List.mem_map

/-- **The rings partition the bytes.**  The chart of any measure of the callers of a report, whose
bytes are each below `2 ^ 1000`, can be drawn.  Its sections are those of slices, one slice for each
caller whose measure is positive, in the order of the report:
* the sections of the inner ring are those of the callers, each as large as its caller's measure and
  with the share of the full turn that it is of the sum of all, which is not zero;
* the first one begins at zero, and each other one where the one before it ends;
* around a caller's section there are others just when the measure has parts and neither is negative:
  one without a name for the bytes requested, from where the caller's begins, and, if any bytes are
  wasted, one for them from where that one ends;
* their sizes add up to that of the caller's;
* there is nothing to draw just when no caller's measure is positive. -/
theorem sections_partition (m : Measure) {rows : List Caller}
    (hrows : ∀ c ∈ rows, ModerateUsage 1000 c.usage) :
    ∃ slices : List Slice,
      sections m (Report.ranked rows) = .ok (slices.flatMap Slice.sections)
        ∧ slices.map Slice.caller = shown m (Report.ranked rows)
        ∧ (slices.flatMap Slice.sections).filter (·.level = .inner) = slices.map Slice.own
        ∧ Consecutive (.finite 0) (slices.map Slice.own)
        ∧ (∀ s ∈ slices, s.Fits m (fullTurn m (Report.ranked rows)))
        ∧ (slices.flatMap Slice.sections = []
            ↔ ∀ c ∈ Report.ranked rows, m.size c.usage ≤ 0) := by
  -- ranking settles the rows, and leaves all bytes as they are
  have hsettled : ∀ c ∈ Report.ranked rows,
      c.usage.settle = c.usage ∧ ModerateUsage 1000 c.usage := by
    intro c hc
    obtain ⟨row, hrow, rfl⟩ := mem_ranked_iff.mp hc
    have hmoderate := hrows row hrow
    exact ⟨rfl, hmoderate.total, hmoderate.current, hmoderate.peak⟩
  have hmem : ∀ c ∈ shown m (Report.ranked rows), c ∈ Report.ranked rows :=
    fun _ hc => List.mem_of_mem_filter hc
  obtain ⟨slices, hslices, hcallers, hconsecutive, hfits⟩ :=
    sectionsFrom_eq_ok m (k := 1001) (by decide) (fun c hc => (hsettled c (hmem c hc)).1)
      pos_of_mem_shown
      (fun c hc => (Measure.size_lt (hsettled c (hmem c hc)).1 (hsettled c (hmem c hc)).2).le)
      size_le_fullTurn (.finite 0)
  refine ⟨slices, (sections_eq m _).trans hslices, hcallers, filter_inner_sections hfits,
    hconsecutive, hfits, ?_⟩
  rw [flatMap_sections_eq_nil_iff, ← shown_eq_nil_iff, ← hcallers, List.map_eq_nil_iff]

/-- A caller with waste, one that asked for more than it was granted, and one that has given all
back. -/
def threeCallers : List Caller :=
  [ ⟨"__d_alloc", { total := ⟨128, 100⟩, current := ⟨128, 100⟩, peak := ⟨128, 100⟩ }⟩,
    ⟨"sysfs_new_dirent", { total := ⟨4, 8⟩, current := ⟨4, 8⟩, peak := ⟨4, 8⟩ }⟩,
    ⟨"alloc_inode", { total := ⟨16, 10⟩, peak := ⟨16, 10⟩ }⟩ ]

/-- The first is split, the second is not, and the third is not shown. -/
theorem sections_partition_threeCallers :
    (∀ c ∈ threeCallers, ModerateUsage 1000 c.usage)
      ∧ ∃ slices : List Slice,
        sections .current (Report.ranked threeCallers) = .ok (slices.flatMap Slice.sections)
          ∧ (∃ s ∈ slices, s.own.name = "__d_alloc" ∧ s.around.map Section.size = [100, 28])
          ∧ (∃ s ∈ slices, s.own.name = "sysfs_new_dirent" ∧ s.around = [])
          ∧ ∀ s ∈ slices, s.own.name ≠ "alloc_inode" := by
  have hmoderate : ∀ c ∈ threeCallers, ModerateUsage 1000 c.usage := by
    have hsmall : ∀ c ∈ threeCallers, ∀ b ∈ [c.usage.total, c.usage.current, c.usage.peak],
        |b.granted| < 2 ^ 8 ∧ |b.requested| < 2 ^ 8 := by decide
    intro c hc
    have hbytes : ∀ b ∈ [c.usage.total, c.usage.current, c.usage.peak], Moderate 1000 b := by
      intro b hb
      obtain ⟨hgranted, hrequested⟩ := hsmall c hc b hb
      exact Moderate.mono ⟨hgranted, hrequested⟩ (by decide)
    exact ⟨hbytes _ (by simp), hbytes _ (by simp), hbytes _ (by simp)⟩
  obtain ⟨slices, hslices, hcallers, -, -, hfits, -⟩ := sections_partition .current hmoderate
  -- the slices are those of the callers that have something at present
  have hshown : ∀ c : Caller, (∃ s ∈ slices, s.caller = c)
      ↔ (∃ row ∈ threeCallers, row.settle = c) ∧ 0 < c.usage.current.granted := by
    intro c
    rw [← List.mem_map, hcallers, shown, List.mem_filter, mem_ranked_iff, decide_eq_true_eq]
    rfl
  refine ⟨hmoderate, slices, hslices, ?_, ?_, ?_⟩
  · obtain ⟨s, hs, hcaller⟩ := (hshown (threeCallers[0]).settle).mpr ⟨⟨_, by decide, rfl⟩, by decide⟩
    have hfit := hfits s hs
    refine ⟨s, hs, hfit.own.name.trans (congrArg Caller.name hcaller), ?_⟩
    have hsplits := hfit.splits 100 28 (by rw [hcaller]; rfl) (by decide) (by decide)
    generalize s.around = around at hsplits ⊢
    cases hsplits with
    | whole _ hnone => exact absurd hnone (by decide)
    | both h _ hunused => rw [List.map_cons, List.map_cons, h.size, hunused.size, List.map_nil]
  · obtain ⟨s, hs, hcaller⟩ := (hshown (threeCallers[1]).settle).mpr ⟨⟨_, by decide, rfl⟩, by decide⟩
    have hfit := hfits s hs
    refine ⟨s, hs, hfit.own.name.trans (congrArg Caller.name hcaller), ?_⟩
    by_contra hne
    obtain ⟨requested, wasted, hparts, -, hwasted⟩ := hfit.around_ne_nil_iff.mp hne
    rw [hcaller] at hparts
    cases hparts
    exact absurd hwasted (by decide)
  · intro s hs hname
    obtain ⟨⟨row, hrow, hcaller⟩, hpos⟩ := (hshown s.caller).mp ⟨s, hs, rfl⟩
    rw [(hfits s hs).own.name] at hname
    rw [← hcaller] at hname hpos
    have hnone : ∀ row ∈ threeCallers, 0 < row.settle.usage.current.granted →
        row.settle.name ≠ "alloc_inode" := by decide
    exact hnone row hrow hpos hname

end SlabWaste.Ring
