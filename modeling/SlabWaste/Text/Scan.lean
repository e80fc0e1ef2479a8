/-
  SlabWaste.Text.Scan
  ───────────────────
  **PIECES AT THE FRONT OF A TEXT.**

  Each scanner takes one piece off the front of a text and gives the piece and
  the rest, or nothing if the text begins otherwise.  A piece is always as long
  as it can be.
-/
import SlabWaste.Text.Blank
import SlabWaste.Text.Digit
import SlabWaste.Text.Word

namespace SlabWaste.Text

/-- The text after a given piece. -/
def expect : List Char → List Char → Option (List Char)
  | [], s => some s
  | _ :: _, [] => none
  | p :: piece, c :: s => if p = c then expect piece s else none

/-- The text after one or more blanks. -/
def skipBlanks (s : List Char) : Option (List Char) :=
  match s with
  | c :: rest => if isBlank c then some (trimLeft rest) else none
  | [] => none

/-- A piece of one or more characters of a class. -/
def takeSome (p : Char → Bool) (s : List Char) : Option (List Char × List Char) :=
  if (s.takeWhile p).isEmpty then none else some (s.takeWhile p, s.dropWhile p)

/-- A word. -/
def word? (s : List Char) : Option (List Char × List Char) := takeSome isWord s

/-- A token: anything but blanks. -/
def token? (s : List Char) : Option (List Char × List Char) := takeSome (!isBlank ·) s

/-- The digit values of a run of decimal digits. -/
def digits? (s : List Char) : Option (List Nat × List Char) :=
  (takeSome isDigit s).map fun (run, rest) => (run.filterMap digitValue?, rest)

/-! ## Nothing is lost. -/

theorem expect_eq_some_iff {piece s rest : List Char} :
    expect piece s = some rest ↔ s = piece ++ rest := by
  induction piece generalizing s with
  | nil => simp [expect]
  | cons p piece ih =>
      cases s with
      | nil => simp [expect]
      | cons c s =>
          by_cases h : p = c
          · subst h
            simp [expect, ih]
          · have h' : ¬ c = p := fun e => h e.symm
            simp [expect, h, h']

theorem append_of_takeSome {p : Char → Bool} {s piece rest : List Char}
    (h : takeSome p s = some (piece, rest)) : piece ++ rest = s := by
  unfold takeSome at h
  split at h
  · simp at h
  · simp only [Option.some.injEq, Prod.mk.injEq] at h
    rw [← h.1, ← h.2, List.takeWhile_append_dropWhile]

end SlabWaste.Text
