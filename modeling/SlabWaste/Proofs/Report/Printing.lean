/-
  SlabWaste.Proofs.Report.Printing
  ────────────────────────────────
  **WHAT GETS WRITTEN.**

  A figure is printed unless it is too long, and a text with figures in it is made
  unless one of them is.  Of a text that is written piece by piece, what comes
  before the first such figure gets written:

      decimal_bind      one figure, and what is made with it
      ofPieces_made     a text of pieces, cut short or not
-/
import SlabWaste.Report.Written

namespace SlabWaste

namespace Numeral

/-! ## §1. Figures. -/

/-- An integer as it is printed. -/
def printed (n : Int) : String := signed n (digits n.natAbs)

/-- An integer that is short enough to be printed. -/
def Fits (n : Int) : Prop := n.natAbs < decimalBound

instance (n : Int) : Decidable (Fits n) := inferInstanceAs (Decidable (n.natAbs < decimalBound))

/-- The fault of an integer that is not. -/
def unprintable (n : Int) : Fault := .tooLong (digits n.natAbs).length

/-- A figure that fits is printed, … -/
theorem decimal_of_fits {n : Int} (h : Fits n) : decimal n = .ok (printed n) := by
  unfold decimal
  exact if_pos h

/-- … and one that does not is a fault. -/
theorem decimal_of_not_fits {n : Int} (h : ¬ Fits n) : decimal n = .error (unprintable n) := by
  unfold decimal
  exact if_neg h

/-- The first of some integers that is too long to be printed. -/
def overlong? (ns : List Int) : Option Int := ns.find? fun n => !decide (Fits n)

theorem overlong?_cons_of_fits {n : Int} (h : Fits n) (ns : List Int) :
    overlong? (n :: ns) = overlong? ns := by
  unfold overlong?
  exact List.find?_cons_of_neg (by simpa using h)

theorem overlong?_cons_of_not_fits {n : Int} (h : ¬ Fits n) (ns : List Int) :
    overlong? (n :: ns) = some n := by
  unfold overlong?
  exact List.find?_cons_of_pos (by simpa using h)

/-- The first of two lists of figures is looked through first. -/
theorem overlong?_append (ms ns : List Int) :
    overlong? (ms ++ ns) = (overlong? ms).or (overlong? ns) := List.find?_append

/-- None is found just if all of them fit. -/
theorem overlong?_eq_none_iff {ns : List Int} : overlong? ns = none ↔ ∀ n ∈ ns, Fits n := by
  unfold overlong?
  rw [List.find?_eq_none]
  simp only [Bool.not_eq_true', decide_eq_false_iff_not, Decidable.not_not]

end Numeral

namespace Written

open Numeral

/-! ## §2. Pieces. -/

/-- A piece of a text: the figures in it, as they are printed one after the other, and the whole of
it. -/
structure Piece where
  figures : List Int := []
  text : String
  deriving DecidableEq, Repr

/-- The piece, unless one of its figures is too long. -/
def Piece.made (p : Piece) : Except Numeral.Fault String :=
  match overlong? p.figures with
  | none => .ok p.text
  | some n => .error (unprintable n)

theorem Piece.made_of_fits {p : Piece} (h : overlong? p.figures = none) : p.made = .ok p.text := by
  unfold Piece.made
  rw [h]

theorem Piece.made_of_overlong {p : Piece} {n : Int} (h : overlong? p.figures = some n) :
    p.made = .error (unprintable n) := by
  unfold Piece.made
  rw [h]

/-- A piece without figures is always made. -/
theorem Piece.made_plain (text : String) : (⟨[], text⟩ : Piece).made = .ok text := rfl

/-- Print a figure and go on with it: whatever is made then also has this figure. -/
theorem decimal_bind {n : Int} {p : Piece} {next : String → Except Numeral.Fault String}
    (h : next (printed n) = p.made) :
    (decimal n >>= next) = ({ p with figures := n :: p.figures } : Piece).made := by
  unfold Piece.made at h ⊢
  by_cases hn : Fits n
  · rw [decimal_of_fits hn]
    simp only [overlong?_cons_of_fits hn]
    exact h
  · rw [decimal_of_not_fits hn]
    simp only [overlong?_cons_of_not_fits hn]
    rfl

/-! ## §3. Texts. -/

/-- Texts one after the other. -/
def joined (texts : List String) : String := texts.foldr (· ++ ·) ""

/-- The characters of the joined text are those of the texts. -/
theorem toList_joined (texts : List String) : (joined texts).toList = texts.flatMap String.toList := by
  induction texts with
  | nil => rfl
  | cons text texts ih =>
      show (text ++ joined texts).toList = _
      rw [String.toList_append, ih, List.flatMap_cons]

/-- Pieces that are all made are written one after the other. -/
theorem ofPieces_map_ok (texts : List String) :
    ofPieces (texts.map .ok) = ⟨joined texts, none⟩ := by
  induction texts with
  | nil => rfl
  | cons text texts ih =>
      rw [List.map_cons, ofPieces, ih]
      rfl

/-- **What is written is what comes before the first figure that is too long.** -/
theorem ofPieces_made (pieces : List Piece) :
    ofPieces (pieces.map Piece.made)
      = { text := joined ((pieces.takeWhile fun p => (overlong? p.figures).isNone).map Piece.text)
          cut := (overlong? (pieces.flatMap Piece.figures)).map fun n => .number (unprintable n) } := by
  induction pieces with
  | nil => rfl
  | cons p pieces ih =>
      rw [List.map_cons, List.flatMap_cons, List.takeWhile_cons, overlong?_append]
      cases hp : overlong? p.figures with
      | none =>
          rw [Piece.made_of_fits hp, ofPieces, ih]
          rfl
      | some n =>
          rw [Piece.made_of_overlong hp]
          rfl

/-- A text whose figures are short enough is written to its end. -/
theorem ofPieces_made_of_fits {pieces : List Piece}
    (h : overlong? (pieces.flatMap Piece.figures) = none) :
    ofPieces (pieces.map Piece.made) = ⟨joined (pieces.map Piece.text), none⟩ := by
  rw [← ofPieces_map_ok, List.map_map]
  congr 1
  apply List.map_congr_left
  intro p hp
  apply Piece.made_of_fits
  rw [overlong?_eq_none_iff] at h ⊢
  intro n hn
  exact h n (List.mem_flatMap.mpr ⟨p, hp, hn⟩)

end Written

end SlabWaste
