/-
  SlabWaste.Proofs.Report.Reading
  ───────────────────────────────
  **A REPORT CAN BE READ BACK.**

  A row is padded to columns, but a name or a figure may be wider than its column,
  and a name may be missing.  So a row is read by its words and not by its columns:
  the last eight are its figures, and the one in front of them, if there is any, is
  its name.  A report is read by its lines, none of which is empty but the one above
  the warning:

      words_cellsText      the words of a line of columns
      sameRow_of_line      a row says all that it shows of its caller
      body_inj             the rows and the warning can be told apart

  Main result: `Report.write_inj`.
-/
import SlabWaste.Proofs.Number.Printed
import SlabWaste.Proofs.Report.Page
import SlabWaste.Proofs.Text.Words
import Mathlib.Data.List.Forall2
import Std.Data.String.ToInt

namespace SlabWaste

open SlabWaste.Text

/-! ## §1. Words in columns. -/

namespace Text

/-- The blanks between the columns of a table. -/
def isGap (c : Char) : Bool := c == ' ' || c == '\t'

/-- The blanks and tabs between cells are white space. -/
theorem isBlank_of_isGap {c : Char} (h : isGap c = true) : isBlank c = true := by
  unfold isGap at h
  rw [Bool.or_eq_true, beq_iff_eq, beq_iff_eq] at h
  rcases h with rfl | rfl
  · decide
  · decide

/-- A word in a column, and the blanks in front of it. -/
structure Cell where
  gap : Piece isGap
  word : Piece (!isBlank ·)

/-- The blanks and the word. -/
def Cell.text (cell : Cell) : List Char := cell.gap.text ++ cell.word.text

/-- The cells of a line, one after the other. -/
def cellsText (cells : List Cell) : List Char := cells.flatMap Cell.text

/-- Behind a word the row goes on with a gap, or ends. -/
theorem ends_cellsText (cells : List Cell) : Ends (!isBlank ·) (cellsText cells) := by
  cases cells with
  | nil => exact ends_nil
  | cons cell cells =>
      have hgap : ∀ c, isGap c = true → (!isBlank c) = false := fun c hc => by
        rw [isBlank_of_isGap hc]
        rfl
      show Ends (!isBlank ·) (cell.gap.text ++ cell.word.text ++ cellsText cells)
      rw [List.append_assoc]
      exact cell.gap.ends hgap _

/-- The words of a line are those of its cells. -/
theorem words_cellsText (cells : List Cell) :
    words (cellsText cells) = cells.map (·.word.text) := by
  induction cells with
  | nil => rfl
  | cons cell cells ih =>
      have hgap : Within isBlank cell.gap.text :=
        fun c hc => isBlank_of_isGap (cell.gap.within c hc)
      show words (cell.gap.text ++ cell.word.text ++ cellsText cells) = _
      rw [List.append_assoc, words_blanks_append hgap,
        words_piece_append cell.word (ends_cellsText cells), ih]
      rfl

/-- A character that stands in the line of a table: a blank between columns, or none. -/
def inTable (c : Char) : Bool := isGap c || !isBlank c

/-- What stands in cells belongs in a table. -/
theorem within_cellsText (cells : List Cell) : Within inTable (cellsText cells) := by
  intro c hc
  obtain ⟨cell, -, hc⟩ := List.mem_flatMap.mp hc
  unfold inTable
  rw [Bool.or_eq_true]
  exact (List.mem_append.mp hc).imp (cell.gap.within c) (cell.word.within c)

/-- A line ends at the first character that does not stand in one. -/
theorem line_inj {line other rest more : List Char} (hline : Within inTable line)
    (hother : Within inTable other) (h : line ++ '\n' :: rest = other ++ '\n' :: more) :
    line = other ∧ rest = more := by
  have hends : ∀ s, Ends inTable ('\n' :: s) := fun s => ends_cons.mpr (by decide)
  constructor
  · have htaken := congrArg (List.takeWhile inTable) h
    rwa [takeWhile_append_of_ends hline (hends rest),
      takeWhile_append_of_ends hother (hends more)] at htaken
  · have hdropped := congrArg (List.dropWhile inTable) h
    rw [dropWhile_append_of_ends hline (hends rest),
      dropWhile_append_of_ends hother (hends more)] at hdropped
    exact (List.cons.inj hdropped).2

end Text

/-! ## §2. Figures. -/

namespace Numeral

/-- A figure is printed as integers are. -/
theorem printed_eq_repr (n : Int) : printed n = n.repr := by
  unfold printed signed
  cases n with
  | ofNat m =>
      have hm : ¬ Int.ofNat m < 0 := Int.not_lt.mpr (Int.natCast_nonneg m)
      rw [if_neg hm]
      rfl
  | negSucc m =>
      rw [if_pos (Int.negSucc_lt_zero m)]
      rfl

/-- There is no white space in a figure, … -/
theorem without_printed (n : Int) : Without isBlank (printed n).toList := by
  have hdigits : Without isBlank (digits n.natAbs).toList := by
    unfold digits
    rw [String.toList_ofList]
    exact isBlank_toDigits .ten n.natAbs
  unfold printed signed
  split
  · rw [String.toList_append]
    exact List.forall_mem_cons.mpr ⟨by decide, hdigits⟩
  · exact hdigits

/-- … and there is at least one character. -/
theorem printed_ne (n : Int) : (printed n).toList ≠ [] := by
  unfold printed signed digits
  split
  · simp
  · simp

/-- A figure as a word. -/
def figureWord (n : Int) : Piece (!isBlank ·) where
  text := (printed n).toList
  ne := printed_ne n
  within c hc := by simpa using without_printed n c hc

/-- Different figures are printed differently. -/
theorem figureWord_inj {n m : Int} (h : (figureWord n).text = (figureWord m).text) : n = m := by
  have hprinted : printed n = printed m := String.toList_injective h
  rw [printed_eq_repr, printed_eq_repr] at hprinted
  exact Int.repr_inj.mp hprinted

/-- The blanks in front of a text that is narrower than `width`. -/
def indent (width : Nat) (s : String) : List Char := List.replicate (width - s.length) ' '

/-- In front of a padded text there are blanks only. -/
theorem within_indent (width : Nat) (s : String) : Within isGap (indent width s) := by
  intro c hc
  rw [List.eq_of_mem_replicate hc]
  rfl

/-- A padded text is its indent and then the text. -/
theorem toList_padLeft (width : Nat) (s : String) :
    (padLeft width s).toList = indent width s ++ s.toList := by
  unfold padLeft indent
  rw [String.toList_append, String.toList_ofList]

end Numeral

/-! ## §3. Rows. -/

namespace Report

open SlabWaste.Numeral SlabWaste.Written

/-- What stands in front of a column of figures, and how wide the column is. -/
structure Column where
  front : Piece isGap
  width : Nat

/-- A figure in a column. -/
def Column.cell (column : Column) (n : Int) : Cell where
  gap := {
    text := column.front.text ++ indent column.width (printed n)
    ne := List.append_ne_nil_of_left_ne_nil column.front.ne _
    within := List.forall_mem_append.mpr
      ⟨column.front.within, within_indent column.width (printed n)⟩ }
  word := figureWord n

/-- The columns of figures. -/
def columns : List Column :=
  let tab : Piece isGap := ⟨['\t'], by decide, by decide⟩
  let tabs : Piece isGap := ⟨['\t', '\t'], by decide, by decide⟩
  let spaces : Piece isGap := ⟨[' ', ' ', ' '], by decide, by decide⟩
  [ ⟨tab, 0⟩, ⟨tab, 0⟩, ⟨tab, 0⟩, ⟨tabs, figureWidth⟩, ⟨spaces, figureWidth⟩,
    ⟨tabs, figureWidth⟩, ⟨spaces, figureWidth⟩, ⟨tab, 0⟩ ]

/-- The figures in their columns. -/
def cells (c : Caller) : List Cell := List.zipWith Column.cell columns (figures c)

/-- The row of a caller without the end of its line. -/
def line (c : Caller) : List Char := indent nameWidth c.name ++ c.name.toList ++ cellsText (cells c)

/-- A row is the line of its caller, with its line end. -/
theorem toList_rowText (c : Caller) : (rowText c).toList = line c ++ ['\n'] := by
  unfold rowText padded line cellsText cells columns figures
  simp [toList_padLeft, Cell.text, Column.cell, figureWord, indent]

/-- The words of a name without blanks: the name, or none if it is empty. -/
def nameWords (name : String) : List (List Char) :=
  if name.toList = [] then [] else [name.toList]

/-- A name is read back from the words of it. -/
theorem nameWords_inj {name other : String} (h : nameWords name = nameWords other) :
    name = other := by
  apply String.toList_injective
  unfold nameWords at h
  split at h
  next hname =>
    split at h
    next hother => rw [hname, hother]
    next => cases h
  next =>
    split at h
    next => cases h
    next => exact (List.cons.inj h).1

/-- **The words of a row** are its name, if there is one, and its eight figures. -/
theorem words_line {c : Caller} (h : Without isBlank c.name.toList) :
    words (line c) = nameWords c.name ++ (figures c).map fun n => (figureWord n).text := by
  have hindent : Within isBlank (indent nameWidth c.name) :=
    fun x hx => isBlank_of_isGap (within_indent nameWidth c.name x hx)
  have hfigures : words (cellsText (cells c)) = (figures c).map fun n => (figureWord n).text :=
    words_cellsText (cells c)
  unfold line nameWords
  rw [List.append_assoc, words_blanks_append hindent, ← hfigures]
  split
  next hname => rw [hname, List.nil_append, List.nil_append]
  next hname =>
    let piece : Text.Piece (!isBlank ·) :=
      ⟨c.name.toList, hname, fun x hx => by simpa using h x hx⟩
    rw [List.singleton_append]
    exact words_piece_append piece (ends_cellsText (cells c))

/-- What a report shows of two callers is the same. -/
structure SameRow (c d : Caller) : Prop where
  name : c.name = d.name
  waste : c.usage.waste = d.usage.waste
  current : c.usage.current = d.usage.current
  total : c.usage.total = d.usage.total
  peak : c.usage.peak = d.usage.peak
  peakWaste : c.usage.peakWaste = d.usage.peakWaste

/-- Callers with one name and the same figures have the same row. -/
theorem SameRow.of_figures {c d : Caller} (hname : c.name = d.name)
    (hfigures : figures c = figures d) : SameRow c d := by
  unfold figures at hfigures
  simp only [List.cons.injEq, and_true] at hfigures
  obtain ⟨hwaste, hcurrent, hcurrent', htotal, htotal', hpeak, hpeak', hpeakWaste⟩ := hfigures
  exact ⟨hname, hwaste, congrArg₂ Bytes.mk hcurrent hcurrent', congrArg₂ Bytes.mk htotal htotal',
    congrArg₂ Bytes.mk hpeak hpeak', hpeakWaste⟩

/-- **A row says all that it shows of its caller.** -/
theorem sameRow_of_line {c d : Caller} (hc : Without isBlank c.name.toList)
    (hd : Without isBlank d.name.toList) (h : line c = line d) : SameRow c d := by
  have hwords := congrArg words h
  rw [words_line hc, words_line hd] at hwords
  -- there are eight figures in either row, so the names are what is in front of them
  obtain ⟨hnames, hfigures⟩ := List.append_inj' hwords rfl
  exact .of_figures (nameWords_inj hnames)
    ((List.map_inj_right fun _ _ => figureWord_inj).mp hfigures)

/-- A line has no character that ends one. -/
theorem within_line {c : Caller} (h : Without isBlank c.name.toList) : Within inTable (line c) := by
  have hname : Within inTable (indent nameWidth c.name ++ c.name.toList) := by
    intro x hx
    unfold inTable
    rw [Bool.or_eq_true]
    exact (List.mem_append.mp hx).imp (within_indent nameWidth c.name x)
      fun hx => by simpa using h x hx
  exact List.forall_mem_append.mpr ⟨hname, within_cellsText (cells c)⟩

/-! ## §4. Reports. -/

/-- The rows of a report, and the warning under them. -/
def body (callers : List Caller) (missed : Bool) : List Char :=
  callers.flatMap (fun c => (rowText c).toList) ++ if missed then warning.toList else []

/-- All reports begin with the same two lines. -/
theorem toList_whole (callers : List Caller) (missed : Bool) :
    (whole callers missed).toList
      = [header ++ "\n", rule ++ "\n"].flatMap String.toList ++ body callers missed := by
  unfold whole body
  rw [toList_joined, List.flatMap_append, List.flatMap_append, List.flatMap_map, List.append_assoc]
  cases missed with
  | false => rfl
  | true => rfl

/-- The body of a report begins with the line of its first caller. -/
theorem body_cons (c : Caller) (callers : List Caller) (missed : Bool) :
    body (c :: callers) missed = line c ++ '\n' :: body callers missed := by
  unfold body
  rw [List.flatMap_cons, toList_rowText, List.append_assoc, List.append_assoc]
  rfl

/-- There is an empty line in front of the warning. -/
theorem exists_body_nil_true : ∃ rest, body [] true = '\n' :: rest := ⟨_, rfl⟩

/-- Without callers, the warning tells the two bodies apart. -/
theorem body_nil_inj {m n : Bool} (h : body [] m = body [] n) : m = n := by
  obtain ⟨rest, hwarning⟩ := exists_body_nil_true
  have hnone : body [] false = [] := rfl
  cases m with
  | false =>
      cases n with
      | false => rfl
      | true =>
          rw [hnone, hwarning] at h
          cases h
  | true =>
      cases n with
      | false =>
          rw [hnone, hwarning] at h
          cases h
      | true => rfl

/-- The warning is no row, since a row is no empty line. -/
theorem body_nil_ne (missed : Bool) {c : Caller} (h : Without isBlank c.name.toList)
    (callers : List Caller) (other : Bool) : body [] missed ≠ body (c :: callers) other := by
  rw [body_cons]
  have htab : '\t' ∈ line c :=
    List.mem_append_right _ (List.mem_append_left _ List.mem_cons_self)
  cases missed with
  | false =>
      -- a line of figures has tabs in it, which neither the end of the text nor the warning has
      intro heq
      have hnil : [] = line c ++ '\n' :: body callers other := heq
      simp at hnil
  | true =>
      intro heq
      obtain ⟨rest, hwarning⟩ := exists_body_nil_true
      rw [hwarning, ← List.nil_append ('\n' :: rest)] at heq
      have hline := (line_inj (fun _ hx => absurd hx List.not_mem_nil) (within_line h) heq).1
      rw [← hline] at htab
      exact List.not_mem_nil htab

/-- **The rows of a report and its warning can be told apart**, and each from the next. -/
theorem body_inj {cs ds : List Caller} {m n : Bool}
    (hcs : ∀ c ∈ cs, Without isBlank c.name.toList)
    (hds : ∀ d ∈ ds, Without isBlank d.name.toList) (h : body cs m = body ds n) :
    List.Forall₂ SameRow cs ds ∧ m = n := by
  -- row by row: the first line of both is the same, and so is what comes after it
  induction cs generalizing ds with
  | nil =>
      cases ds with
      | nil => exact ⟨.nil, body_nil_inj h⟩
      | cons d ds => exact absurd h (body_nil_ne m (hds d List.mem_cons_self) ds n)
  | cons c cs ih =>
      have hc := hcs c List.mem_cons_self
      cases ds with
      | nil => exact absurd h.symm (body_nil_ne n hc cs m)
      | cons d ds =>
          have hd := hds d List.mem_cons_self
          rw [body_cons, body_cons] at h
          obtain ⟨hline, hrest⟩ := line_inj (within_line hc) (within_line hd) h
          obtain ⟨hrows, hmissed⟩ := ih (fun x hx => hcs x (List.mem_cons_of_mem c hx))
            (fun x hx => hds x (List.mem_cons_of_mem d hx)) hrest
          exact ⟨.cons (sameRow_of_line hc hd hline) hrows, hmissed⟩

/-- A caller whose row can be read: there is no blank in its name, and its figures are short enough
to print. -/
structure Legible (c : Caller) : Prop where
  name : Without isBlank c.name.toList
  fits : ∀ n ∈ figures c, Fits n

/-- A report on such callers is written to its end. -/
theorem text_write_of_legible {callers : List Caller} (h : ∀ c ∈ callers, Legible c)
    (missed : Bool) : (write callers missed).text = whole callers missed := by
  apply text_write
  have hfits : ∀ n ∈ callers.flatMap figures, Fits n := by
    intro n hn
    obtain ⟨c, hc, hn⟩ := List.mem_flatMap.mp hn
    exact (h c hc).fits n hn
  rw [cut_write, overlong?_eq_none_iff.mpr hfits]
  rfl

/-- **The text of a report loses nothing that it shows.**  If the reports on two lists of callers
whose names have no blanks and whose figures are short enough to print are the same, then the lists
have the same rows, one by one, and either both warn of lost events or none does. -/
theorem write_inj {cs ds : List Caller} {m n : Bool} (hcs : ∀ c ∈ cs, Legible c)
    (hds : ∀ d ∈ ds, Legible d) (h : (write cs m).text = (write ds n).text) :
    List.Forall₂ SameRow cs ds ∧ m = n := by
  rw [text_write_of_legible hcs, text_write_of_legible hds] at h
  have hchars := congrArg String.toList h
  rw [toList_whole, toList_whole] at hchars
  exact body_inj (fun c hc => (hcs c hc).name) (fun d hd => (hds d hd).name)
    (List.append_cancel_left hchars)

/-- A caller without a name, and one whose name and figures are wider than their columns. -/
def oddCallers : List Caller :=
  [ ⟨"", { current := ⟨-5, 7⟩, waste := -12 }⟩,
    ⟨"kmem_cache_alloc_node_trace_and_something_more",
      { total := ⟨1234567890, 9⟩, peak := ⟨1234567890, -1⟩, peakWaste := 1234567891 }⟩ ]

/-- The callers with other counts of allocations and releases, which a report does not show. -/
def recounted (callers : List Caller) : List Caller :=
  callers.map fun c => { c with usage := { c.usage with allocations := 2, releases := 1 } }

/-- Their reports are the same, and so is what these show. -/
theorem write_inj_oddCallers :
    (∀ c ∈ oddCallers, Legible c) ∧ (∀ c ∈ recounted oddCallers, Legible c)
      ∧ (write oddCallers true).text = (write (recounted oddCallers) true).text
      ∧ List.Forall₂ SameRow oddCallers (recounted oddCallers) := by
  have hnames : ∀ c ∈ oddCallers, Without isBlank c.name.toList := by decide +kernel
  have hfits : ∀ c ∈ oddCallers, ∀ n ∈ figures c, Fits n := by
    unfold Fits
    decide +kernel
  have hodd : ∀ c ∈ oddCallers, Legible c := fun c hc => ⟨hnames c hc, hfits c hc⟩
  have hrecounted : ∀ c ∈ recounted oddCallers, Legible c := by
    intro d hd
    obtain ⟨c, hc, rfl⟩ := List.mem_map.mp hd
    exact ⟨hnames c hc, hfits c hc⟩
  have hsame : (write oddCallers true).text = (write (recounted oddCallers) true).text := by
    rw [text_write_of_legible hodd, text_write_of_legible hrecounted]
    rfl
  exact ⟨hodd, hrecounted, hsame, (write_inj hodd hrecounted hsame).1⟩

end Report

end SlabWaste
