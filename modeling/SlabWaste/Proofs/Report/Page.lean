/-
  SlabWaste.Proofs.Report.Page
  ────────────────────────────
  **THE REPORT, PIECE BY PIECE.**

  A report has a header line, a rule, a row for each caller and, if events were
  lost, a warning.  Only the rows have figures in them, so nothing but a figure
  that is too long can cut a report short:

      whole          the text of a report with nothing missing
      cut_write      what cuts a report short
      text_write     what is written if nothing does
-/
import SlabWaste.Proofs.Report.Printing
import SlabWaste.Report.Table

namespace SlabWaste.Report

open SlabWaste.Numeral SlabWaste.Written

/-! ## §1. Rows. -/

/-- The figures in the row of a caller. -/
def figures (c : Caller) : List Int :=
  let u := c.usage
  [ u.waste, u.current.granted, u.current.requested, u.total.granted, u.total.requested,
    u.peak.granted, u.peak.requested, u.peakWaste ]

/-- A figure as it is printed, padded to a width. -/
def padded (width : Nat) (n : Int) : String := padLeft width (printed n)

/-- The row of a caller as it is printed. -/
def rowText (c : Caller) : String :=
  let u := c.usage
  padLeft nameWidth c.name ++ "\t" ++ printed u.waste ++ "\t" ++ printed u.current.granted ++ "\t"
    ++ printed u.current.requested ++ "\t\t" ++ padded figureWidth u.total.granted ++ "   "
    ++ padded figureWidth u.total.requested ++ "\t\t" ++ padded figureWidth u.peak.granted ++ "   "
    ++ padded figureWidth u.peak.requested ++ "\t" ++ printed u.peakWaste ++ "\n"

/-- The row as a piece of the report. -/
def rowPiece (c : Caller) : Piece := ⟨figures c, rowText c⟩

/-- A padded figure is printed like any other, and the blanks in front of it do no harm. -/
theorem figure_bind {width : Nat} {n : Int} {p : Piece}
    {next : String → Except Numeral.Fault String} (h : next (padded width n) = p.made) :
    (figure width n >>= next) = ({ p with figures := n :: p.figures } : Piece).made := by
  unfold figure
  rw [bind_map_left]
  exact decimal_bind h

/-- A row is made figure by figure. -/
theorem row_eq_made (c : Caller) : row c = (rowPiece c).made := by
  unfold row
  -- each figure stands in front of those that are not printed yet
  refine decimal_bind (p := ⟨(figures c).drop 1, rowText c⟩) ?_
  refine decimal_bind (p := ⟨(figures c).drop 2, rowText c⟩) ?_
  refine decimal_bind (p := ⟨(figures c).drop 3, rowText c⟩) ?_
  refine figure_bind (p := ⟨(figures c).drop 4, rowText c⟩) ?_
  refine figure_bind (p := ⟨(figures c).drop 5, rowText c⟩) ?_
  refine figure_bind (p := ⟨(figures c).drop 6, rowText c⟩) ?_
  refine figure_bind (p := ⟨(figures c).drop 7, rowText c⟩) ?_
  refine decimal_bind (p := ⟨[], rowText c⟩) ?_
  rfl

/-! ## §2. Reports. -/

/-- The pieces of a report. -/
def pieces (callers : List Caller) (missed : Bool) : List Piece :=
  [⟨[], header ++ "\n"⟩, ⟨[], rule ++ "\n"⟩] ++ callers.map rowPiece
    ++ if missed then [⟨[], warning⟩] else []

/-- The whole of a report: its header, the rule, a row for each caller, and the warning if there is
reason for it. -/
def whole (callers : List Caller) (missed : Bool) : String :=
  joined ([header ++ "\n", rule ++ "\n"] ++ callers.map rowText ++ if missed then [warning] else [])

/-- A report is what can be made of its pieces. -/
theorem write_eq_made (callers : List Caller) (missed : Bool) :
    write callers missed = ofPieces ((pieces callers missed).map Piece.made) := by
  unfold write pieces
  have hrows : callers.map row = (callers.map rowPiece).map Piece.made := by
    rw [List.map_map]
    apply List.map_congr_left
    intro c _
    rw [Function.comp_apply, row_eq_made]
  rw [hrows, List.map_append, List.map_append]
  cases missed with
  | false => simp only [List.map_cons, List.map_nil, Piece.made_plain, Bool.false_eq_true, if_false]
  | true => simp only [List.map_cons, List.map_nil, Piece.made_plain, if_true]

/-- The figures of a report are those of its rows. -/
theorem figures_pieces (callers : List Caller) (missed : Bool) :
    (pieces callers missed).flatMap Piece.figures = callers.flatMap figures := by
  unfold pieces
  rw [List.flatMap_append, List.flatMap_append, List.flatMap_map]
  cases missed with
  | false => exact List.append_nil _
  | true => exact List.append_nil _

/-- The whole report is the texts of its pieces. -/
theorem texts_pieces (callers : List Caller) (missed : Bool) :
    joined ((pieces callers missed).map Piece.text) = whole callers missed := by
  unfold pieces whole
  rw [List.map_append, List.map_append, List.map_map]
  cases missed with
  | false => rfl
  | true => rfl

/-- **A report is whole unless one of its figures is too long**, and that figure is what it is cut
short by. -/
theorem cut_write (callers : List Caller) (missed : Bool) :
    (write callers missed).cut
      = (overlong? (callers.flatMap figures)).map fun n => .number (unprintable n) := by
  rw [write_eq_made, ofPieces_made, figures_pieces]

/-- What is taken of a list in which something stops the taking does not depend on what follows. -/
theorem takeWhile_append_of_stop {α : Type} {p : α → Bool} {xs : List α}
    (h : ∃ x ∈ xs, p x = false) (ys : List α) : (xs ++ ys).takeWhile p = xs.takeWhile p := by
  induction xs with
  | nil =>
      obtain ⟨x, hx, -⟩ := h
      cases hx
  | cons x xs ih =>
      rw [List.cons_append, List.takeWhile_cons, List.takeWhile_cons]
      cases hx : p x with
      | false => rfl
      | true =>
          obtain ⟨y, hy, hstop⟩ := h
          rcases List.mem_cons.mp hy with rfl | hy
          · rw [hx] at hstop
            cases hstop
          · rw [ih ⟨y, hy, hstop⟩]

/-- **A report that is cut short has the rows before the one that cuts it, and no warning.** -/
theorem text_write_of_cut {callers : List Caller} {missed : Bool} {why : SlabWaste.Fault}
    (h : (write callers missed).cut = some why) :
    (write callers missed).text
      = whole (callers.takeWhile fun c => (overlong? (figures c)).isNone) false := by
  have hstop : ∃ p ∈ callers.map rowPiece, (overlong? p.figures).isNone = false := by
    rw [cut_write] at h
    obtain ⟨n, hn, -⟩ := Option.map_eq_some_iff.mp h
    have hlong : ¬ Numeral.Fits n := by simpa using List.find?_some hn
    obtain ⟨c, hc, hfigure⟩ := List.mem_flatMap.mp (List.mem_of_find?_eq_some hn)
    refine ⟨rowPiece c, List.mem_map.mpr ⟨c, hc, rfl⟩, ?_⟩
    rw [Bool.eq_false_iff, ne_eq, Option.isNone_iff_eq_none, overlong?_eq_none_iff]
    exact fun hfits => hlong (hfits n hfigure)
  have hfits : ((fun p : Piece => (overlong? p.figures).isNone) ∘ rowPiece)
      = fun c => (overlong? (figures c)).isNone := by
    simp only [Function.comp_def, rowPiece]
  have htext : Piece.text ∘ rowPiece = rowText := rfl
  -- neither the header nor the rule has a figure in it
  have hplain : ∀ p ∈ [(⟨[], header ++ "\n"⟩ : Piece), ⟨[], rule ++ "\n"⟩],
      (overlong? p.figures).isNone = true := by
    intro p hp
    rcases List.mem_cons.mp hp with rfl | hp
    · rfl
    · rw [List.mem_singleton.mp hp]
      rfl
  rw [write_eq_made, ofPieces_made]
  unfold pieces whole
  simp only
  rw [List.append_assoc, List.takeWhile_append_of_pos hplain,
    takeWhile_append_of_stop hstop, List.takeWhile_map, List.map_append, List.map_map, hfits, htext,
    if_neg (by decide), List.append_nil, List.map_cons, List.map_cons, List.map_nil]

/-- A report that nothing cuts short is whole. -/
theorem text_write {callers : List Caller} {missed : Bool}
    (h : (write callers missed).cut = none) : (write callers missed).text = whole callers missed := by
  rw [cut_write, Option.map_eq_none_iff] at h
  rw [write_eq_made, ofPieces_made_of_fits (by rw [figures_pieces]; exact h), texts_pieces]

end SlabWaste.Report
