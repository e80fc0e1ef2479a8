/-
  SlabWaste.Text.Lines
  ────────────────────
  **LINES OF A TEXT.**

  A line ends at a line feed, at a carriage return, or at the pair of both.
  Each of the three is read as one line feed, which stays with its line; only
  the last line may lack it.
-/

namespace SlabWaste.Text

/-! ## §1. Line ends. -/

/-- Write every line end as a line feed; `done` holds what is written, last character first. -/
def unifyFrom (done : List Char) : List Char → List Char
  | [] => done.reverse
  | '\r' :: '\n' :: s => unifyFrom ('\n' :: done) s
  | c :: s => unifyFrom ((if c = '\r' then '\n' else c) :: done) s

/-- The text with a line feed for every line end. -/
def unifyLineEnds (s : List Char) : List Char := unifyFrom [] s

/-! ## §2. Splitting. -/

/-- Split after every line feed; `done` holds the lines found, last first, and `line` the
characters of the line being read, last first. -/
def splitFrom (done : List (List Char)) (line : List Char) : List Char → List (List Char)
  | [] => (if line.isEmpty then done else line.reverse :: done).reverse
  | c :: s =>
      if c = '\n' then splitFrom ((c :: line).reverse :: done) [] s
      else splitFrom done (c :: line) s

/-- The lines of a text, each with its line end as one line feed. -/
def lines (s : List Char) : List (List Char) := splitFrom [] [] (unifyLineEnds s)

end SlabWaste.Text
