/-
  SlabWaste.Proofs.Tally.Waste
  ────────────────────────────
  **WASTE IS WITHIN BOUNDS.**

  The waste of a caller is what it was granted and did not ask for.  The waste of its
  peaks is a difference of two peaks, which it may have had at different times: it need
  not be the waste at any time.  But where no allocation is of less than was asked for,
  the greatest waste that there ever was bounds it from above:

      part_total_mono       the total waste is never less than it was before
      exists_isGreatest     there is a greatest waste
      peakWaste_le          it is no less than the waste of the peaks
      waste_le_total        it is no more than the total waste

  Main result: `Session.waste_processAll`.
-/
import SlabWaste.Proofs.Report.Ranking
import SlabWaste.Proofs.Tally.Peak

namespace SlabWaste

/-! ## §1. Fair sizes. -/

/-- The waste of byte counts adds up. -/
def Bytes.wasteHom : Bytes →+ Int where
  toFun := waste
  map_zero' := rfl
  map_add' a b := by
    show (a.granted + b.granted) - (a.requested + b.requested)
      = (a.granted - a.requested) + (b.granted - b.requested)
    omega

/-- At least as much was granted as was asked for, which is not negative. -/
def Bytes.Fair (b : Bytes) : Prop := 0 ≤ b.requested ∧ b.requested ≤ b.granted

/-- Where no more is requested than granted, nothing negative is wasted. -/
theorem Bytes.Fair.waste_nonneg {b : Bytes} (h : b.Fair) : 0 ≤ b.waste := by
  have hle := h.2
  unfold waste
  omega

/-- What movements grant is fair. -/
def Fair (ms : List Movement) : Prop := ∀ m ∈ ms, m.bytes.Fair

namespace Fair

variable {ms pre : List Movement}

theorem of_prefix (h : Fair ms) (hpre : pre <+: ms) : Fair pre := fun m hm => h m (hpre.subset hm)

/-- In fair movements no size is negative, … -/
theorem noNegative (h : Fair ms) (k : SizeKind) : NoNegative k ms := by
  intro m hm
  obtain ⟨hrequested, hle⟩ := h m hm
  cases k with
  | granted => exact Int.le_trans hrequested hle
  | requested => exact hrequested

/-- … and neither is any waste. -/
theorem waste_nonneg (h : Fair ms) : ∀ m ∈ ms, 0 ≤ Bytes.wasteHom m.bytes :=
  fun m hm => (h m hm).waste_nonneg

end Fair

/-! ## §2. The waste of a caller. -/

namespace Tally

variable {ms : List Movement}

/-- A total is never less than it was before. -/
theorem part_total_mono (part : Bytes →+ Int) (h : ∀ m ∈ ms, 0 ≤ part m.bytes) (f : String)
    {pre : List Movement} (hpre : pre <+: ms) :
    part ((ofMovements pre).usage f).total ≤ part ((ofMovements ms).usage f).total := by
  induction ms using List.reverseRecOn with
  | nil =>
      rw [List.prefix_nil.mp hpre]
  | append_singleton ms m ih =>
      rcases List.prefix_concat_iff.mp hpre with rfl | hpre
      · exact le_refl _
      · have hms : ∀ m ∈ ms, 0 ≤ part m.bytes := fun m hm => h m (List.mem_append_left _ hm)
        exact le_trans (ih hms hpre) (part_total_append part ms (h m (by simp)) f)

/-- Of the values at the beginnings of a list one is the greatest. -/
theorem exists_isGreatest {α : Type} (value : List α → Int) (xs : List α) :
    ∃ n, IsGreatest {v | ∃ pre, pre <+: xs ∧ v = value pre} n := by
  induction xs using List.reverseRecOn with
  | nil => exact ⟨_, isGreatest_nil value⟩
  | append_singleton xs x ih =>
      obtain ⟨n, hn⟩ := ih
      exact ⟨_, isGreatest_append hn⟩

/-- The waste of the peaks is not negative: as much was granted at the peak of what was asked for. -/
theorem peakWaste_nonneg (h : Fair ms) (f : String) :
    0 ≤ ((ofMovements ms).usage f).peak.waste := by
  -- when most was asked for, no less was granted, and the other peak is no lower than that
  obtain ⟨⟨pre, hpre, hreached⟩, -⟩ := isGreatest_peak (h.noNegative .requested) f
  obtain ⟨-, hupper⟩ := isGreatest_peak (h.noNegative .granted) f
  have hthen : 0 ≤ ((ofMovements pre).usage f).current.waste :=
    part_current_nonneg Bytes.wasteHom (h.of_prefix hpre).waste_nonneg f
  have hgranted : ((ofMovements pre).usage f).current.granted
      ≤ ((ofMovements ms).usage f).peak.granted := hupper ⟨pre, hpre, rfl⟩
  have hrequested : ((ofMovements ms).usage f).peak.requested
      = ((ofMovements pre).usage f).current.requested := hreached
  unfold Bytes.waste at hthen ⊢
  omega

/-- The waste of the peaks is no more than the waste was when most was granted. -/
theorem peakWaste_le (h : Fair ms) (f : String) :
    ∃ pre, pre <+: ms
      ∧ ((ofMovements ms).usage f).peak.waste ≤ ((ofMovements pre).usage f).current.waste := by
  -- when most was granted, no more was asked for than at the other peak
  obtain ⟨⟨pre, hpre, hreached⟩, -⟩ := isGreatest_peak (h.noNegative .granted) f
  obtain ⟨-, hupper⟩ := isGreatest_peak (h.noNegative .requested) f
  have hgranted : ((ofMovements ms).usage f).peak.granted
      = ((ofMovements pre).usage f).current.granted := hreached
  have hrequested : ((ofMovements pre).usage f).current.requested
      ≤ ((ofMovements ms).usage f).peak.requested := hupper ⟨pre, hpre, rfl⟩
  refine ⟨pre, hpre, ?_⟩
  unfold Bytes.waste
  omega

/-- The waste is never more than the total waste in the end. -/
theorem waste_le_total (h : Fair ms) (f : String) {pre : List Movement} (hpre : pre <+: ms) :
    ((ofMovements pre).usage f).current.waste ≤ ((ofMovements ms).usage f).total.waste :=
  le_trans (part_current_le_total Bytes.wasteHom (h.of_prefix hpre).waste_nonneg f)
    (part_total_mono Bytes.wasteHom h.waste_nonneg f hpre)

/-- **The waste of a caller and that of its peaks**, between nothing and the total waste. -/
theorem waste_bounds (h : Fair ms) (f : String) {worst : Int}
    (hworst : IsGreatest {n | ∃ pre, pre <+: ms ∧ n = ((ofMovements pre).usage f).current.waste}
      worst) :
    let u := (ofMovements ms).usage f
    0 ≤ u.current.waste ∧ u.current.waste ≤ u.total.waste
      ∧ 0 ≤ u.peak.waste ∧ u.peak.waste ≤ worst ∧ worst ≤ u.total.waste := by
  intro u
  obtain ⟨⟨last, hlast, rfl⟩, hupper⟩ := hworst
  obtain ⟨pre, hpre, hpeak⟩ := peakWaste_le h f
  exact ⟨part_current_nonneg Bytes.wasteHom h.waste_nonneg f,
    waste_le_total h f (List.prefix_refl ms), peakWaste_nonneg h f,
    le_trans hpeak (hupper ⟨pre, hpre, rfl⟩), waste_le_total h f hlast⟩

end Tally

/-! ## §3. Runs of events. -/

/-- What events grant is fair. -/
def Event.Fair (es : List Event) : Prop :=
  ∀ x site bytes, Event.allocate x site bytes ∈ es → bytes.Fair

/-- To name its caller leaves an event fair. -/
theorem Event.Fair.named {es : List Event} (h : Event.Fair es) (name : CallSite → String) :
    SlabWaste.Fair (es.map (Event.named name)) := by
  intro m hm
  obtain ⟨e, he, rfl⟩ := List.mem_map.mp hm
  cases e with
  | allocate x site bytes => exact h x site bytes he
  | release x => exact ⟨Int.le_refl 0, Int.le_refl 0⟩

/-- **Waste is within bounds.**  If every allocation of a run grants at least what is asked for, and
that is not negative, then for every caller of its ranking, `worst` being the greatest waste that it
had after any beginning of the run: `0 ≤ waste ≤ total waste`, and `0 ≤ waste of the peaks ≤ worst ≤
total waste`. -/
theorem Session.waste_processAll (family : Family) (resolver : Option Symbols.Resolver)
    (h : ({ family, resolver } : Session).Sound) (es : List Event) (hes : Event.Fair es) :
    let tally := fun pre : List Event => (({ family, resolver } : Session).processAll pre).tally
    ∀ c ∈ (tally es).ranked, ∃ worst,
      IsGreatest {n | ∃ pre, pre <+: es ∧ n = ((tally pre).usage c.name).current.waste} worst
        ∧ 0 ≤ c.usage.waste ∧ c.usage.waste ≤ c.usage.total.waste
        ∧ 0 ≤ c.usage.peakWaste ∧ c.usage.peakWaste ≤ worst ∧ worst ≤ c.usage.total.waste := by
  intro tally c hc
  have htally : ∀ pre, tally pre = Tally.ofMovements
      (pre.map (Event.named ({ family, resolver } : Session).naming)) :=
    tally_processAll_fresh family resolver h
  -- there are finitely many beginnings, so one of them is the worst
  obtain ⟨worst, hworst⟩ :=
    Tally.exists_isGreatest (fun pre => ((tally pre).usage c.name).current.waste) es
  refine ⟨worst, hworst, ?_⟩
  rw [Tally.usage_of_mem_ranked hc]
  simp only [htally] at hworst ⊢
  apply Tally.waste_bounds (hes.named _)
  rw [Tally.values_map]
  exact hworst

/-- Memory that is given back before less is asked for, of which more is granted. -/
def separatePeaks : List Event :=
  [.allocate 0x1000 (.text "alloc_inode") ⟨10, 10⟩, .release 0x1000,
    .allocate 0x2000 (.text "alloc_inode") ⟨16, 2⟩]

/-- Most was asked for first and most was granted last, so the waste of the peaks is less than the
waste is. -/
theorem Session.waste_separatePeaks :
    let tally := fun pre : List Event => (({} : Session).processAll pre).tally
    ({} : Session).Sound ∧ Event.Fair separatePeaks
      ∧ ∃ c ∈ (tally separatePeaks).ranked, c.name = "alloc_inode"
        ∧ c.usage.peakWaste = 6 ∧ c.usage.waste = 14 ∧ c.usage.total.waste = 14
        ∧ IsGreatest {n | ∃ pre, pre <+: separatePeaks
            ∧ n = ((tally pre).usage c.name).current.waste} 14 := by
  intro tally
  have hfair : Event.Fair separatePeaks := by
    intro x site bytes hmem
    simp only [separatePeaks, List.mem_cons, List.not_mem_nil, or_false, Event.allocate.injEq,
      reduceCtorEq, false_or] at hmem
    rcases hmem with ⟨-, -, rfl⟩ | ⟨-, -, rfl⟩
    · exact ⟨by decide, by decide⟩
    · exact ⟨by decide, by decide⟩
  -- the caller, with its waste up to date
  have hc : ⟨"alloc_inode", ⟨⟨26, 12⟩, ⟨16, 2⟩, ⟨16, 10⟩, 2, 1, 14, 6⟩⟩
      ∈ (tally separatePeaks).ranked :=
    (Tally.ranked_perm _).mem_iff.mpr (by decide +kernel)
  obtain ⟨worst, hworst, -, -, -, -, htotal⟩ :=
    waste_processAll .all none Symbols.Resolver.sound_plain separatePeaks hfair _ hc
  have hlast : 14 ≤ worst := hworst.2 ⟨separatePeaks, List.prefix_refl _, by decide +kernel⟩
  have hworst14 : worst = 14 := Int.le_antisymm htotal hlast
  rw [hworst14] at hworst
  exact ⟨Symbols.Resolver.sound_plain, hfair, _, hc, rfl, rfl, rfl, rfl, hworst⟩

end SlabWaste
