/-
  SlabWaste.Proofs.Text.Words
  ───────────────────────────
  **THE WORDS OF A TEXT.**

  The words of a text are what stands between its blanks.  A text has a first word
  just when it begins with it, after blanks that may be missing, and goes on with a
  blank or not at all:

      words_eq_cons_iff       the first word, and the others
      words_append_blanks     blanks at the end make no difference
-/
import SlabWaste.Proofs.Text.Scanning

namespace SlabWaste.Text

variable {s rest blanks piece : List Char}

/-- Characters that are no blanks go on with the word that is being read. -/
theorem wordsFrom_append (word : List Char) (h : Without isBlank piece) (rest : List Char) :
    wordsFrom word (piece ++ rest) = wordsFrom (piece.reverse ++ word) rest := by
  induction piece generalizing word with
  | nil => rfl
  | cons c piece ih =>
      have hc : isBlank c = false := h c List.mem_cons_self
      rw [List.cons_append, wordsFrom, hc, List.reverse_cons, List.append_assoc]
      exact ih (c :: word) fun x hx => h x (List.mem_cons_of_mem c hx)

/-- Blanks in front make no words. -/
theorem words_blanks_append (h : Within isBlank blanks) (s : List Char) :
    words (blanks ++ s) = words s := by
  unfold words
  induction blanks with
  | nil => rfl
  | cons c blanks ih =>
      have hc : isBlank c = true := h c List.mem_cons_self
      rw [List.cons_append, wordsFrom, hc]
      exact ih fun x hx => h x (List.mem_cons_of_mem c hx)

/-- A word ends at a blank, or with the text. -/
theorem words_piece_append (piece : Piece (!isBlank ·)) (hrest : Ends (!isBlank ·) rest) :
    words (piece.text ++ rest) = piece.text :: words rest := by
  have hpiece : Without isBlank piece.text := fun c hc => by simpa using piece.within c hc
  have hne : piece.text.reverse ≠ [] := by simpa using piece.ne
  unfold words
  rw [wordsFrom_append [] hpiece, List.append_nil]
  cases rest with
  | nil =>
      rw [wordsFrom, if_neg (by simpa using hne), List.reverse_reverse]
      rfl
  | cons c rest =>
      have hc : isBlank c = true := by simpa using hrest
      rw [wordsFrom, hc, if_pos rfl, if_neg (by simpa using hne), List.reverse_reverse]
      show _ = _ :: wordsFrom [] (c :: rest)
      rw [wordsFrom, hc]
      rfl

/-- **The first word of a text.** -/
theorem words_eq_cons_iff {word : List Char} {others : List (List Char)} :
    words s = word :: others
      ↔ ∃ (indent : List Char) (piece : Piece (!isBlank ·)) (rest : List Char),
        Within isBlank indent ∧ s = indent ++ (piece.text ++ rest) ∧ Ends (!isBlank ·) rest
          ∧ word = piece.text ∧ others = words rest := by
  constructor
  · intro h
    obtain ⟨indent, hindent, hs, hends⟩ := exists_of_trimLeft s
    rw [hs, words_blanks_append hindent] at h
    cases htext : trimLeft s with
    | nil =>
        rw [htext] at h
        cases h
    | cons c t =>
        rw [htext] at h hends hs
        have hne : (c :: t).takeWhile (!isBlank ·) ≠ [] := by
          rw [List.takeWhile_cons, ends_cons.mp hends]
          exact List.cons_ne_nil c _
        have hwithin : Within (!isBlank ·) ((c :: t).takeWhile (!isBlank ·)) :=
          fun _ hx => List.mem_takeWhile_imp (p := (!isBlank ·)) hx
        let piece : Piece (!isBlank ·) := ⟨_, hne, hwithin⟩
        -- the word is all up to the next blank
        have hsplit : c :: t = piece.text ++ (c :: t).dropWhile (!isBlank ·) :=
          (List.takeWhile_append_dropWhile (p := (!isBlank ·))).symm
        have hrest := ends_dropWhile (!isBlank ·) (c :: t)
        refine ⟨indent, piece, _, hindent, hs.trans (congrArg (indent ++ ·) hsplit), hrest, ?_⟩
        rw [hsplit, words_piece_append piece hrest] at h
        injection h with hword hothers
        exact ⟨hword.symm, hothers.symm⟩
  · rintro ⟨indent, piece, rest, hindent, rfl, hrest, rfl, rfl⟩
    rw [words_blanks_append hindent, words_piece_append piece hrest]

/-- Blanks at the end make no words. -/
theorem words_append_blanks (h : Within isBlank blanks) (s : List Char) :
    words (s ++ blanks) = words s := by
  -- by induction on the text, for whatever was read of a word that is not at its end
  have hfrom : ∀ word, wordsFrom word (s ++ blanks) = wordsFrom word s := by
    induction s with
    | nil =>
        intro word
        cases blanks with
        | nil => rfl
        | cons c blanks =>
            have hc : isBlank c = true := h c List.mem_cons_self
            have hnone := words_blanks_append (fun x hx => h x (List.mem_cons_of_mem c hx)) []
            rw [List.append_nil] at hnone
            show (if isBlank c then
              if word.isEmpty then words blanks else word.reverse :: words blanks
              else wordsFrom (c :: word) blanks) = _
            rw [hc, if_pos rfl, hnone]
            rfl
    | cons c s ih =>
        intro word
        rw [List.cons_append, wordsFrom, ih, ih]
        rfl
  exact hfrom []

end SlabWaste.Text
