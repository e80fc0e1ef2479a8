/-
  SlabWaste.Proofs.Report.Sheet
  ─────────────────────────────
  **THE ACCOUNT ADDS UP.**

  An account shows the figures of the run and a line for each caller.  The sheet
  holds the figures that stand in it, as integers, and says how they are laid out:

      Sheet                  the figures of an account, in the order of its text
      write_eq               the account is the text of its sheet
      account_after          its sums, whatever the session was asked
-/
import SlabWaste.Proofs.Report.Printing
import SlabWaste.Proofs.Report.Ranking
import SlabWaste.Proofs.Tally.Totals

namespace SlabWaste

namespace Report.Account

open SlabWaste.Numeral
open SlabWaste.Written

/-! ## §1. Sheets. -/

/-- The figures in the line of a caller. -/
structure Line where
  total : Int
  waste : Int
  net : Int
  allocations : Int
  releases : Int
  name : String
  deriving DecidableEq, Repr

/-- The figures of an account. -/
structure Sheet where
  /-- The current bytes allocated. -/
  granted : Int
  /-- The current bytes requested. -/
  requested : Int
  /-- The current wasted bytes. -/
  wasted : Int
  /-- The number of allocs. -/
  allocations : Int
  /-- The number of frees. -/
  releases : Int
  /-- The number of lost frees. -/
  unknown : Int
  /-- The number of malformed. -/
  malformed : Int
  /-- The number of callers. -/
  callers : Int
  lines : List Line
  deriving DecidableEq, Repr

/-- The line as it is printed. -/
def Line.text (l : Line) : String :=
  padLeft byteWidth (printed l.total) ++ " " ++ padLeft byteWidth (printed l.waste) ++ " "
    ++ padLeft byteWidth (printed l.net) ++ " " ++ padLeft countWidth (printed l.allocations) ++ "/"
    ++ padRight countWidth (printed l.releases) ++ " " ++ l.name ++ "\n"

/-- The figures of the line, as they are printed one after the other. -/
def Line.figures (l : Line) : List Int := [l.total, l.waste, l.net, l.allocations, l.releases]

/-- The line as a piece of the account. -/
def Line.piece (l : Line) : Piece := ⟨l.figures, l.text⟩

namespace Sheet

/-- The figures of the run with their titles. -/
def items (s : Sheet) : List (String × Int) :=
  [ ("current bytes allocated: ", s.granted),
    ("current bytes requested: ", s.requested),
    ("current wasted bytes:    ", s.wasted),
    ("number of allocs:        ", s.allocations),
    ("number of frees:         ", s.releases),
    ("number of lost frees:    ", s.unknown),
    ("number of malformed:     ", s.malformed),
    ("number of callers:       ", s.callers) ]

/-- A figure of the run with its title, as they are printed. -/
def itemText (item : String × Int) : String :=
  item.1 ++ padLeft summaryWidth (printed item.2) ++ "\n"

/-- The sheet above the lines of the callers: the figures of the run, an empty line, and two lines
of titles. -/
def heading (s : Sheet) : List String :=
  s.items.map itemText ++ ["\n", "   total    waste      net alloc/free  caller\n",
    "---------------------------------------------\n"]

/-- The sheet as it is printed. -/
def text (s : Sheet) : String := Written.joined (s.heading ++ s.lines.map Line.text)

/-- All figures of the sheet, as they are printed one after the other. -/
def figures (s : Sheet) : List Int := s.items.map (·.2) ++ s.lines.flatMap Line.figures

/-- A figure of the run as a piece of the account. -/
def itemPiece (item : String × Int) : Piece := ⟨[item.2], itemText item⟩

/-- What is above the lines of the callers, piece by piece; the titles have no figures. -/
def headingPieces (s : Sheet) : List Piece :=
  s.items.map itemPiece ++ [⟨[], "\n"⟩, ⟨[], "   total    waste      net alloc/free  caller\n"⟩,
    ⟨[], "---------------------------------------------\n"⟩]

/-- The pieces that the account is written in. -/
def pieces (s : Sheet) : List Piece := s.headingPieces ++ s.lines.map Line.piece

theorem texts_pieces (s : Sheet) : joined (s.pieces.map Piece.text) = s.text := by
  unfold pieces headingPieces text heading
  rw [List.map_append, List.map_append, List.map_map, List.map_map]
  rfl

theorem figures_pieces (s : Sheet) : s.pieces.flatMap Piece.figures = s.figures := by
  have hheading : s.headingPieces.flatMap Piece.figures = s.items.map (·.2) := rfl
  have hlines : (s.lines.map Line.piece).flatMap Piece.figures = s.lines.flatMap Line.figures :=
    List.flatMap_map _ _ _
  unfold pieces figures
  rw [List.flatMap_append, hheading, hlines]

end Sheet

/-! ## §2. The sheet of an account. -/

/-- The line of a caller. -/
def Line.ofCaller (c : Caller) : Line where
  total := c.usage.total.granted
  waste := c.usage.waste
  net := c.usage.current.granted
  allocations := c.usage.allocations
  releases := c.usage.releases
  name := c.name

/-- The sheet of an account of callers in a given order. -/
def Sheet.of (counts : Counts) (callers : List Caller) : Sheet where
  granted := (live callers).granted
  requested := (live callers).requested
  wasted := (live callers).waste
  allocations := counts.allocations
  releases := counts.releases
  unknown := counts.unknown
  malformed := counts.malformed
  callers := callers.length
  lines := callers.map Line.ofCaller

/-- A line of the summary is made of its figure, … -/
theorem item_eq_made (title : String) (n : Int) :
    item title n = (Sheet.itemPiece (title, n)).made := by
  unfold item
  exact decimal_bind (p := ⟨[], Sheet.itemText (title, n)⟩) rfl

/-- … the line of a caller of its five, … -/
theorem row_eq_made (c : Caller) : row c = (Line.ofCaller c).piece.made := by
  unfold row
  -- each figure stands in front of those that are not printed yet
  refine decimal_bind (p := ⟨(Line.ofCaller c).figures.drop 1, (Line.ofCaller c).text⟩) ?_
  refine decimal_bind (p := ⟨(Line.ofCaller c).figures.drop 2, (Line.ofCaller c).text⟩) ?_
  refine decimal_bind (p := ⟨(Line.ofCaller c).figures.drop 3, (Line.ofCaller c).text⟩) ?_
  refine decimal_bind (p := ⟨(Line.ofCaller c).figures.drop 4, (Line.ofCaller c).text⟩) ?_
  refine decimal_bind (p := ⟨[], (Line.ofCaller c).text⟩) ?_
  rfl

/-- … and the summary of all its lines. -/
theorem summary_eq_made (counts : Counts) (callers : List Caller) :
    summary counts callers = (Sheet.of counts callers).headingPieces.map Piece.made := by
  unfold summary Sheet.headingPieces
  simp only [item_eq_made, Sheet.items, Sheet.of, List.map_cons, List.map_nil, List.cons_append,
    List.nil_append, Piece.made_plain]

/-- **An account is written in the pieces of its sheet.** -/
theorem write_eq_made (counts : Counts) (callers : List Caller) :
    write counts callers = .ofPieces ((Sheet.of counts callers).pieces.map Piece.made) := by
  have hrows : callers.map row = ((callers.map Line.ofCaller).map Line.piece).map Piece.made := by
    rw [List.map_map, List.map_map]
    apply List.map_congr_left
    intro c _
    rw [Function.comp_apply, Function.comp_apply, row_eq_made]
  unfold write Sheet.pieces
  rw [summary_eq_made, hrows, ← List.map_append]
  rfl

/-- **An account is the text of its sheet**, if all figures in it are short enough to print. -/
theorem write_eq {counts : Counts} {callers : List Caller}
    (h : ∀ n ∈ (Sheet.of counts callers).figures, Fits n) :
    write counts callers = ⟨(Sheet.of counts callers).text, none⟩ := by
  have hfits : overlong? ((Sheet.of counts callers).pieces.flatMap Piece.figures) = none := by
    rw [Sheet.figures_pieces]
    exact overlong?_eq_none_iff.mpr h
  rw [write_eq_made, ofPieces_made_of_fits hfits, Sheet.texts_pieces]

/-! ## §3. Sums. -/

/-- The live bytes of all callers are added up in each of the two counts. -/
theorem live_eq (callers : List Caller) :
    (live callers).granted = (callers.map (·.usage.current.granted)).sum
      ∧ (live callers).requested = (callers.map (·.usage.current.requested)).sum := by
  -- generalized over the sum the fold starts from
  have hfold : ∀ (bs : List Bytes) (b : Bytes),
      (bs.foldl (· + ·) b).granted = b.granted + (bs.map (·.granted)).sum
        ∧ (bs.foldl (· + ·) b).requested = b.requested + (bs.map (·.requested)).sum := by
    intro bs
    induction bs with
    | nil => simp
    | cons first bs ih =>
        intro b
        obtain ⟨hgranted, hrequested⟩ := ih (b + first)
        rw [List.foldl_cons, hgranted, hrequested]
        simp only [Bytes.granted_add, Bytes.requested_add, List.map_cons, List.sum_cons]
        omega
  have hlive := hfold (callers.map (·.usage.current)) {}
  rw [List.map_map, List.map_map] at hlive
  unfold live
  rw [hlive.1, hlive.2]
  exact ⟨Int.zero_add _, Int.zero_add _⟩

/-- The waste of settled callers adds up to what is live and was not asked for. -/
theorem sum_waste_settle (callers : List Caller) :
    ((callers.map Caller.settle).map (·.usage.waste)).sum
      = (callers.map (·.usage.current.granted)).sum
        - (callers.map (·.usage.current.requested)).sum := by
  induction callers with
  | nil => rfl
  | cons c callers ih =>
      simp only [List.map_cons, List.sum_cons]
      rw [ih]
      show c.usage.current.granted - c.usage.current.requested + _ = _
      omega

end Report.Account

/-! ## §4. The account of a tally. -/

namespace Tally

open Report.Account

/-- The sheet of a tally's account. -/
def sheet (t : Tally) : Sheet := .of (.ofTally t) t.ranked

/-- A column of the sheet adds up as it does in the table of the callers. -/
theorem sum_lines (t : Tally) (column : Line → Int) :
    (t.sheet.lines.map column).sum
      = ((t.callers.rows.map Caller.settle).map (column ∘ Line.ofCaller)).sum := by
  show ((t.ranked.map Line.ofCaller).map column).sum = _
  rw [List.map_map, (t.ranked_perm.map _).sum_eq]

/-- The live bytes stand in the account as they are in the table of the callers. -/
theorem sheet_live (t : Tally) :
    t.sheet.granted = (t.callers.rows.map (·.usage.current.granted)).sum
      ∧ t.sheet.requested = (t.callers.rows.map (·.usage.current.requested)).sum := by
  obtain ⟨hgranted, hrequested⟩ := live_eq t.ranked
  rw [(t.ranked_perm.map _).sum_eq, List.map_map] at hgranted hrequested
  exact ⟨hgranted, hrequested⟩

/-- What is live adds up, whatever the tally. -/
theorem sum_net_waste (t : Tally) :
    t.sheet.granted = (t.sheet.lines.map (·.net)).sum
      ∧ t.sheet.wasted = t.sheet.granted - t.sheet.requested
      ∧ t.sheet.wasted = (t.sheet.lines.map (·.waste)).sum := by
  obtain ⟨hgranted, hrequested⟩ := t.sheet_live
  have hwasted : t.sheet.wasted = t.sheet.granted - t.sheet.requested := rfl
  refine ⟨?_, hwasted, ?_⟩
  · rw [hgranted, sum_lines, List.map_map]
    rfl
  · rw [hwasted, hgranted, hrequested, sum_lines, ← sum_waste_settle]
    rfl

/-- The counts add up where they agree with those of the callers. -/
theorem Balanced.sum_counts {t : Tally} (h : t.Balanced) :
    t.sheet.allocations = (t.sheet.lines.map (·.allocations)).sum
      ∧ t.sheet.releases = (t.sheet.lines.map (·.releases)).sum + t.sheet.unknown := by
  have hallocations := h.allocations
  have hreleases := h.releases
  unfold CallerTable.sum at hallocations hreleases
  rw [sum_lines, sum_lines, List.map_map, List.map_map]
  exact ⟨hallocations, hreleases⟩

/-- The lines of a sheet are those of the callers, each once. -/
theorem names_perm (t : Tally) :
    (t.sheet.lines.map (·.name)).Perm (t.callers.rows.map (·.name)) := by
  have hperm := t.ranked_perm.map (·.name)
  rw [List.map_map] at hperm
  show ((t.ranked.map Line.ofCaller).map (·.name)).Perm _
  rw [List.map_map]
  exact hperm

/-- There is a line for a caller just if the tally has it. -/
theorem mem_names_iff (t : Tally) (f : String) :
    f ∈ t.sheet.lines.map (·.name) ↔ t.callers.contains f = true := by
  show f ∈ (t.ranked.map Line.ofCaller).map (·.name) ↔ _
  rw [List.map_map]
  exact t.callers.mem_names_ranked_iff f

end Tally

namespace Session

open Report.Account

/-- **The account adds up.**  Whatever a session was asked, of the figures that stand in the text of
its account the bytes allocated are the sum of the net column; the wasted bytes are what was
allocated less what was requested, and the sum of the waste column; the allocs are the sum of their
column, and the frees that of theirs with the lost frees; the callers are as many as there are lines,
one for each that was allocated from since the last reset, in the order of a report.  The text is
the same if the callers are put in order just before. -/
theorem account_after {family : Family} {resolver : Option Symbols.Resolver}
    (h : ({ family, resolver } : Session).Sound) (qs : List Request)
    (hfits : ∀ n ∈ (({ family, resolver } : Session).after qs).tally.sheet.figures,
      Numeral.Fits n) :
    let s := ({ family, resolver } : Session).after qs
    let sheet := s.tally.sheet
    s.tally.account = ⟨sheet.text, none⟩
      ∧ write (.ofTally s.settle.tally) s.tally.ranked = ⟨sheet.text, none⟩
      ∧ sheet.granted = (sheet.lines.map (·.net)).sum
      ∧ sheet.wasted = sheet.granted - sheet.requested
      ∧ sheet.wasted = (sheet.lines.map (·.waste)).sum
      ∧ sheet.allocations = (sheet.lines.map (·.allocations)).sum
      ∧ sheet.releases = (sheet.lines.map (·.releases)).sum + sheet.unknown
      ∧ sheet.callers = sheet.lines.length
      ∧ sheet.lines.map (·.name) = s.tally.ranked.map (·.name)
      ∧ (sheet.lines.map (·.name)).Nodup
      ∧ ∀ f, f ∈ sheet.lines.map (·.name) ↔ ∃ address bytes,
          .allocate address f bytes ∈ ({ family, resolver } : Session).movements qs := by
  intro s sheet
  obtain ⟨hnet, hless, hwaste⟩ := s.tally.sum_net_waste
  obtain ⟨hallocations, hreleases⟩ := (balanced_after h qs).sum_counts
  have htext : s.tally.account = ⟨sheet.text, none⟩ := write_eq hfits
  refine ⟨htext, htext, hnet, hless, hwaste, hallocations, hreleases, ?_, ?_,
    s.tally.names_perm.nodup_iff.mpr s.tally.callers.nodup, ?_⟩
  · show (s.tally.ranked.length : Int) = ((s.tally.ranked.map Line.ofCaller).length : Int)
    rw [List.length_map]
  · show (s.tally.ranked.map Line.ofCaller).map (·.name) = _
    rw [List.map_map]
    rfl
  · intro f
    -- a name is in the table when a movement has granted something to it
    rw [s.tally.mem_names_iff, contains_after h qs, List.any_eq_true]
    constructor
    · rintro ⟨m, hm, hf⟩
      cases m with
      | allocate address caller bytes =>
          have hcaller : caller = f := by simpa [Movement.grantsTo] using hf
          rw [hcaller] at hm
          exact ⟨address, bytes, hm⟩
      | release address => cases hf
    · rintro ⟨address, bytes, hm⟩
      exact ⟨_, hm, by simp [Movement.grantsTo]⟩

/-- An allocation that is forgotten, two at one address by different callers, a release of the
second, one that is unknown, and one that says nothing. -/
def sharedAddress : List Request :=
  [ .process none (.allocate 0x20 (.text "old") ⟨8, 8⟩),
    .reset,
    .process none (.allocate 0x10 (.text "f+0x1/0x2") ⟨32, 20⟩),
    .process (some fun _ => "g") (.allocate 0x10 (.text "f") ⟨16, 16⟩),
    .record none ⟨"kfree", [("ptr", "10")]⟩,
    .record none ⟨"kfree", [("ptr", "10")]⟩,
    .record none ⟨"kfree", []⟩ ]

/-- The sheet of the account after them. -/
def sharedSheet : Sheet where
  granted := 32
  requested := 20
  wasted := 12
  allocations := 2
  releases := 2
  unknown := 1
  malformed := 1
  callers := 2
  lines := [⟨32, 12, 32, 1, 0, "f"⟩, ⟨16, 0, 0, 1, 1, "g"⟩]

/-- The bytes that were written over stay with their caller, and the sums are right. -/
theorem account_sharedAddress :
    let s := ({} : Session).after sharedAddress
    s.tally.account = ⟨sharedSheet.text, none⟩ ∧ sharedSheet.text = "current bytes allocated:         32
current bytes requested:         20
current wasted bytes:            12
number of allocs:                 2
number of frees:                  2
number of lost frees:             1
number of malformed:              1
number of callers:                2

   total    waste      net alloc/free  caller
---------------------------------------------
      32       12       32     1/0     f
      16        0        0     1/1     g
" := by
  intro s
  have hranked : s.tally.ranked = s.tally.callers.rows.map Caller.settle :=
    List.mergeSort_of_pairwise (by decide +kernel)
  have hsheet : s.tally.sheet = sharedSheet := by
    unfold Tally.sheet
    rw [hranked]
    decide +kernel
  have hfits : ∀ n ∈ s.tally.sheet.figures, Numeral.Fits n := by
    rw [hsheet]
    unfold Numeral.Fits
    decide +kernel
  have hsound : ({} : Session).Sound := Symbols.Resolver.sound_plain
  obtain ⟨htext, -⟩ := account_after hsound sharedAddress hfits
  rw [hsheet] at htext
  exact ⟨htext, by decide +kernel⟩

end Session

end SlabWaste
