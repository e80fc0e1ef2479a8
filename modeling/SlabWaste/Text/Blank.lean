/-
  SlabWaste.Text.Blank
  ────────────────────
  **WHITE SPACE.**

  Trace files and symbol maps are made of tokens set apart by white space, and
  white space is meant in the wide sense: the ASCII controls that separate
  lines, columns and records, the no-break space, and the spaces and separators
  of the general punctuation block.

      trim s      `s` without the blanks at its two ends
      words s     the maximal blank-free pieces of `s`, in order
-/

namespace SlabWaste.Text

/-! ## §1. The class. -/

/-- A character that separates tokens. -/
def isBlank (c : Char) : Bool :=
  let n := c.toNat
  (9 ≤ n && n ≤ 13) || (28 ≤ n && n ≤ 32) || n == 0x85 || n == 0xA0 || n == 0x1680
    || (0x2000 ≤ n && n ≤ 0x200A) || n == 0x2028 || n == 0x2029 || n == 0x202F
    || n == 0x205F || n == 0x3000

/-! ## §2. Trimming. -/

/-- The text without its leading blanks. -/
def trimLeft (s : List Char) : List Char := s.dropWhile isBlank

/-- The text without the blanks at its two ends. -/
def trim (s : List Char) : List Char := (trimLeft (trimLeft s).reverse).reverse

/-! ## §3. Words. -/

/-- The maximal blank-free pieces of a text; `word` holds, last character first,
the piece being read. -/
def wordsFrom (word : List Char) : List Char → List (List Char)
  | [] => if word.isEmpty then [] else [word.reverse]
  | c :: s =>
      if isBlank c then
        if word.isEmpty then wordsFrom [] s else word.reverse :: wordsFrom [] s
      else wordsFrom (c :: word) s

/-- The maximal blank-free pieces of a text, in order. -/
def words (s : List Char) : List (List Char) := wordsFrom [] s

end SlabWaste.Text
