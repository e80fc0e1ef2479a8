/-
  SlabWaste.Proofs.Text.Joining
  ─────────────────────────────
  **TEXTS THAT ARE CUT AFTER A LINE FEED.**

  A line feed is a whole character and ends a line, whatever comes before it.  So
  what is decoded and split in two parts, cut after a line feed, is what is
  decoded and split at once; that the bytes are UTF-8 is not asked:

      items_append_lineFeed    the characters
      lines_append_lineFeed    the lines
-/
import SlabWaste.Text.Lines
import SlabWaste.Text.Utf8

namespace SlabWaste.Text

namespace Utf8

/-! ## §1. What a decoder waits for. -/

/-- A begun character is gone on with by a byte beyond ASCII only. -/
def Decoder.Waits (d : Decoder) : Prop := ∀ p ∈ d.pending, 0x80 ≤ p.low

/-- The bytes that a decoder waits for are not ASCII. -/
theorem low_of_ofLead? {b : Nat} {p : Pending} (h : Pending.ofLead? b = some p) :
    0x80 ≤ p.low := by
  -- whichever byte it is, the bounds are written out
  unfold Pending.ofLead? at h
  grind

/-- So it is with a byte that starts a character, … -/
theorem waits_start (items : List (Option Char)) (b : Nat) : (Decoder.start items b).Waits := by
  intro p hp
  unfold Decoder.start at hp
  by_cases hascii : b < 0x80
  · rw [if_pos hascii] at hp
    cases hp
  · rw [if_neg hascii] at hp
    cases hlead : Pending.ofLead? b with
    | none =>
        rw [hlead] at hp
        cases hp
    | some q =>
        rw [hlead] at hp
        injection hp with hp
        rw [← hp]
        exact low_of_ofLead? hlead

/-- … after any byte, … -/
theorem Decoder.waits_step (d : Decoder) (b : UInt8) : (d.step b).Waits := by
  unfold Decoder.step
  cases d.pending with
  | none => exact waits_start d.items b.toNat
  | some p =>
      by_cases hbounds : p.low ≤ b.toNat ∧ b.toNat ≤ p.high
      · simp only [if_pos hbounds]
        split
        · intro q hq
          cases hq
        · intro q hq
          injection hq with hq
          exact Nat.le_of_eq (congrArg Pending.low hq)
      · simp only [if_neg hbounds]
        exact waits_start (none :: d.items) b.toNat

/-- … and after any number of them. -/
theorem Decoder.waits_foldl {d : Decoder} (h : d.Waits) (bytes : List UInt8) :
    (bytes.foldl Decoder.step d).Waits := by
  induction bytes generalizing d with
  | nil => exact h
  | cons b bytes ih => exact ih (d.waits_step b)

/-- The items that a decoder has found once the bytes have ended, last first. -/
def Decoder.ended (d : Decoder) : List (Option Char) :=
  if d.pending.isSome then none :: d.items else d.items

/-- A line feed ends whatever was begun. -/
theorem Decoder.Waits.step_lineFeed {d : Decoder} (h : d.Waits) :
    d.step 0x0A = ⟨some '\n' :: d.ended, none⟩ := by
  obtain ⟨items, pending⟩ := d
  cases pending with
  | none => rfl
  | some p =>
      have hlow : 0x80 ≤ p.low := h p rfl
      unfold Decoder.step
      simp only [show (0x0A : UInt8).toNat = 10 from rfl]
      rw [if_neg (by omega)]
      rfl

/-! ## §2. What was found before. -/

/-- What a decoder has found already makes no difference to what it finds. -/
theorem Decoder.step_append (d : Decoder) (b : UInt8) (before : List (Option Char)) :
    Decoder.step ⟨d.items ++ before, d.pending⟩ b
      = ⟨(d.step b).items ++ before, (d.step b).pending⟩ := by
  have hstart : ∀ items : List (Option Char), Decoder.start (items ++ before) b.toNat
      = ⟨(Decoder.start items b.toNat).items ++ before, (Decoder.start items b.toNat).pending⟩ := by
    intro items
    unfold Decoder.start
    split
    · rfl
    · split
      · rfl
      · rfl
  obtain ⟨items, pending⟩ := d
  unfold Decoder.step
  cases pending with
  | none => exact hstart items
  | some p =>
      -- items are only put in front, so what was there before is never looked at
      by_cases hbounds : p.low ≤ b.toNat ∧ b.toNat ≤ p.high
      · simp only [if_pos hbounds]
        split
        · rfl
        · rfl
      · simp only [if_neg hbounds]
        exact hstart (none :: items)

/-- What was decoded before has no part in what is decoded now, … -/
theorem Decoder.foldl_step_append (d : Decoder) (bytes : List UInt8)
    (before : List (Option Char)) :
    bytes.foldl Decoder.step ⟨d.items ++ before, d.pending⟩
      = ⟨(bytes.foldl Decoder.step d).items ++ before, (bytes.foldl Decoder.step d).pending⟩ := by
  induction bytes generalizing d with
  | nil => rfl
  | cons b bytes ih => rw [List.foldl_cons, List.foldl_cons, d.step_append, ih (d.step b)]

/-- … nor in how the decoding ends. -/
theorem Decoder.finish_append (d : Decoder) (before : List (Option Char)) :
    Decoder.finish ⟨d.items ++ before, d.pending⟩ = before.reverse ++ d.finish := by
  obtain ⟨items, pending⟩ := d
  unfold Decoder.finish
  cases pending with
  | none => exact List.reverse_append
  | some p =>
      show (none :: (items ++ before)).reverse = before.reverse ++ (none :: items).reverse
      rw [← List.cons_append, List.reverse_append]

/-- What a decoder finds after what it has found already is what it would find at first. -/
theorem finish_foldl (before : List (Option Char)) (bytes : List UInt8) :
    (bytes.foldl Decoder.step ⟨before, none⟩).finish = before.reverse ++ items bytes := by
  have hfold := Decoder.foldl_step_append {} bytes before
  rw [show ({} : Decoder).items ++ before = before from rfl] at hfold
  rw [show (⟨before, none⟩ : Decoder) = ⟨before, ({} : Decoder).pending⟩ from rfl, hfold,
    Decoder.finish_append]
  rfl

/-- **The characters of two parts, the first of which ends with a line feed.** -/
theorem items_append_lineFeed (front back : List UInt8) :
    items (front ++ 0x0A :: back) = items front ++ some '\n' :: items back := by
  have hwaits : (front.foldl Decoder.step {}).Waits :=
    Decoder.waits_foldl (fun p hp => by cases hp) front
  have hfront : (front.foldl Decoder.step {}).ended.reverse = items front := rfl
  rw [← hfront]
  show ((front ++ 0x0A :: back).foldl Decoder.step {}).finish = _
  rw [List.foldl_append, List.foldl_cons, hwaits.step_lineFeed, finish_foldl, List.reverse_cons,
    List.append_assoc]
  rfl

/-- **Bytes may be decoded line by line**, since no character reaches over a line feed. -/
theorem decodeLossy_append_lineFeed (front back : List UInt8) :
    decodeLossy (front ++ 0x0A :: back) = decodeLossy front ++ '\n' :: decodeLossy back := by
  unfold decodeLossy
  rw [items_append_lineFeed, List.map_append, List.map_cons]
  rfl

end Utf8

/-! ## §3. Lines. -/

/-- What is written already stays in front of what is written next. -/
theorem unifyFrom_append (before done s : List Char) :
    unifyFrom (done ++ before) s = before.reverse ++ unifyFrom done s := by
  induction done, s using unifyFrom.induct with
  | case1 done => simp only [unifyFrom, List.reverse_append]
  | case2 done s ih =>
      rw [unifyFrom, unifyFrom]
      exact ih
  | case3 done c s hpair ih =>
      rw [unifyFrom.eq_3 _ c s hpair, unifyFrom.eq_3 _ c s hpair]
      exact ih

/-- Line ends are unified from the front. -/
theorem unifyFrom_eq (done s : List Char) :
    unifyFrom done s = done.reverse ++ unifyLineEnds s :=
  unifyFrom_append done [] s

/-- Line ends are unified up to a line feed, which stays or goes with the carriage return before it,
and then after it. -/
theorem exists_unifyFrom_lineFeed (done s : List Char) :
    ∃ front, ∀ t, unifyFrom done (s ++ '\n' :: t) = front ++ '\n' :: unifyLineEnds t := by
  induction done, s using unifyFrom.induct with
  | case1 done =>
      refine ⟨done.reverse, fun t => ?_⟩
      rw [List.nil_append, unifyFrom.eq_3 _ _ _ fun u hc _ => absurd hc (by decide), unifyFrom_eq]
      simp
  | case2 done s ih => exact ih
  | case3 done c s hpair ih =>
      -- a return at the very end makes one line end together with the line feed after it
      by_cases hreturn : c = '\r' ∧ s = []
      · obtain ⟨rfl, rfl⟩ := hreturn
        refine ⟨done.reverse, fun t => ?_⟩
        rw [List.singleton_append, unifyFrom, unifyFrom_eq]
        simp
      · obtain ⟨front, hfront⟩ := ih
        refine ⟨front, fun t => ?_⟩
        have hno : ∀ u, c = '\r' → ¬ s ++ '\n' :: t = '\n' :: u := by
          intro u hc hs
          cases s with
          | nil => exact hreturn ⟨hc, rfl⟩
          | cons x s =>
              injection hs with hx
              exact hpair s hc (by rw [hx])
        rw [List.cons_append, unifyFrom.eq_3 _ c _ hno, hfront]

/-- What was split off before has no part in the rest. -/
theorem splitFrom_eq (done : List (List Char)) (line s : List Char) :
    splitFrom done line s = done.reverse ++ splitFrom [] line s := by
  induction s generalizing done line with
  | nil => cases line <;> simp [splitFrom]
  | cons c s ih =>
      by_cases hc : c = '\n'
      · rw [splitFrom, splitFrom, if_pos hc, if_pos hc, ih, ih [(c :: line).reverse]]
        simp
      · rw [splitFrom, splitFrom, if_neg hc, if_neg hc, ih]

/-- A text is split up to a line feed, and then after it. -/
theorem splitFrom_append_lineFeed (line s t : List Char) :
    splitFrom [] line (s ++ '\n' :: t)
      = splitFrom [] line (s ++ ['\n']) ++ splitFrom [] [] t := by
  induction s generalizing line with
  | nil =>
      rw [List.nil_append, List.nil_append, splitFrom, if_pos rfl, splitFrom, if_pos rfl,
        splitFrom_eq]
      rfl
  | cons c s ih =>
      rw [List.cons_append, List.cons_append, splitFrom, splitFrom]
      by_cases hc : c = '\n'
      · rw [if_pos hc, if_pos hc, splitFrom_eq, ih, splitFrom_eq [_] [] (s ++ ['\n']),
          List.append_assoc]
      · rw [if_neg hc, if_neg hc, ih]

/-- **The lines of two parts, the first of which ends with a line feed.** -/
theorem lines_append_lineFeed (s t : List Char) :
    lines (s ++ '\n' :: t) = lines (s ++ ['\n']) ++ lines t := by
  obtain ⟨front, hfront⟩ := exists_unifyFrom_lineFeed [] s
  unfold lines
  rw [show unifyLineEnds (s ++ '\n' :: t) = _ from hfront t,
    show unifyLineEnds (s ++ ['\n']) = _ from hfront [], splitFrom_append_lineFeed]
  rfl

end SlabWaste.Text
