/-
  SlabWaste.Proofs.Text.Encoding
  ──────────────────────────────
  **A TEXT AS BYTES AND BACK.**

      decodeLossy_encode     every text comes back from its bytes
      lines_flatten          and so do its lines, if each has one line end, its last
                             character
-/
import Mathlib.Tactic.IntervalCases
import SlabWaste.Proofs.Text.Scanning
import SlabWaste.Text.Lines
import SlabWaste.Text.Utf8

namespace SlabWaste.Text

namespace Utf8

/-- The bytes of a text. -/
def encode (s : List Char) : List UInt8 := s.flatMap String.utf8EncodeChar

/-! ## §1. One byte. -/

/-- The bits in the first byte of two. -/
theorem ofLead?_two {n : Nat} (hlow : 2 ≤ n) (hhigh : n < 32) :
    Pending.ofLead? (n + 0xC0) = some ⟨n, 1, 0x80, 0xBF⟩ := by
  unfold Pending.ofLead?
  rw [if_pos (by omega), Nat.add_sub_cancel]

/-- The bits in the first byte of three; overlong forms and surrogates are left out. -/
theorem ofLead?_three {n : Nat} (h : n < 16) :
    Pending.ofLead? (n + 0xE0)
      = some ⟨n, 2, if n = 0 then 0xA0 else 0x80, if n = 13 then 0x9F else 0xBF⟩ := by
  interval_cases n <;> rfl

/-- The bits in the first byte of four; overlong forms and what is too great are left out. -/
theorem ofLead?_four {n : Nat} (h : n < 5) :
    Pending.ofLead? (n + 0xF0)
      = some ⟨n, 3, if n = 0 then 0x90 else 0x80, if n = 4 then 0x8F else 0xBF⟩ := by
  interval_cases n <;> rfl

variable (items : List (Option Char)) {b n : Nat}

theorem toNat_ofNat (h : n < 256) : (UInt8.ofNat n).toNat = n := by
  rw [UInt8.toNat_ofNat']
  exact Nat.mod_eq_of_lt h

/-- A byte below 0x80 is decoded at once. -/
theorem step_ascii (h : n < 0x80) :
    Decoder.step ⟨items, none⟩ (UInt8.ofNat n) = ⟨some (Char.ofNat n) :: items, none⟩ := by
  show Decoder.start items (UInt8.ofNat n).toNat = _
  rw [toNat_ofNat (by omega)]
  unfold Decoder.start
  rw [if_pos h]

/-- A first byte of several makes the decoder wait. -/
theorem step_lead {p : Pending} (hlow : 0x80 ≤ n) (hhigh : n < 256)
    (h : Pending.ofLead? n = some p) :
    Decoder.step ⟨items, none⟩ (UInt8.ofNat n) = ⟨items, some p⟩ := by
  show Decoder.start items (UInt8.ofNat n).toNat = _
  rw [toNat_ofNat hhigh]
  unfold Decoder.start
  rw [if_neg (by omega), h]

/-- A byte that goes on with a character and does not end it. -/
theorem step_between {bits missing low high : Nat} (h : n < 64) (hlow : low ≤ n + 0x80)
    (hhigh : n + 0x80 ≤ high) :
    Decoder.step ⟨items, some ⟨bits, missing + 2, low, high⟩⟩ (UInt8.ofNat (n + 0x80))
      = ⟨items, some ⟨bits * 64 + n, missing + 1, 0x80, 0xBF⟩⟩ := by
  unfold Decoder.step
  simp only [toNat_ofNat (show n + 0x80 < 256 by omega), Nat.add_sub_cancel]
  rw [if_pos ⟨hlow, hhigh⟩, if_neg (by omega)]
  rfl

/-- A byte that ends a character. -/
theorem step_last {bits low high : Nat} (h : n < 64) (hlow : low ≤ n + 0x80)
    (hhigh : n + 0x80 ≤ high) :
    Decoder.step ⟨items, some ⟨bits, 1, low, high⟩⟩ (UInt8.ofNat (n + 0x80))
      = ⟨some (Char.ofNat (bits * 64 + n)) :: items, none⟩ := by
  unfold Decoder.step
  simp only [toNat_ofNat (show n + 0x80 < 256 by omega), Nat.add_sub_cancel]
  rw [if_pos ⟨hlow, hhigh⟩, if_pos (by omega)]

/-! ## §2. One character. -/

/-- A code point is below the surrogates or above them. -/
theorem toNat_valid (c : Char) :
    c.val.toNat < 0xD800 ∨ 0xDFFF < c.val.toNat ∧ c.val.toNat < 0x110000 := c.valid

/-- **The bytes of a character are decoded to it**, … -/
theorem foldl_step_encodeChar (c : Char) :
    (String.utf8EncodeChar c).foldl Decoder.step ⟨items, none⟩ = ⟨some c :: items, none⟩ := by
  have hvalid := toNat_valid c
  have hc : Char.ofNat c.val.toNat = c := Char.ofNat_toNat c
  unfold String.utf8EncodeChar
  generalize c.val.toNat = v at hvalid hc
  -- one case for each number of bytes; what the first byte allows the second is what keeps `v`
  -- above the code points of fewer bytes and out of the surrogates
  by_cases h₁ : v ≤ 0x7F
  · simp only [if_pos h₁, List.foldl_cons, List.foldl_nil]
    rw [step_ascii items (by omega), hc]
  · by_cases h₂ : v ≤ 0x7FF
    · have hbits : v / 64 % 0x20 * 64 + v % 0x40 = v := by omega
      simp only [if_neg h₁, if_pos h₂, List.foldl_cons, List.foldl_nil]
      rw [step_lead items (by omega) (by omega) (ofLead?_two (by omega) (by omega)),
        step_last items (by omega) (by omega) (by omega), hbits, hc]
    · by_cases h₃ : v ≤ 0xFFFF
      · have hbits : (v / 4096 % 0x10 * 64 + v / 64 % 0x40) * 64 + v % 0x40 = v := by omega
        simp only [if_neg h₁, if_neg h₂, if_pos h₃, List.foldl_cons, List.foldl_nil]
        rw [step_lead items (by omega) (by omega) (ofLead?_three (by omega)),
          step_between items (by omega) (by split <;> omega) (by split <;> omega),
          step_last items (by omega) (by omega) (by omega), hbits, hc]
      · have hbits : ((v / 262144 % 0x08 * 64 + v / 4096 % 0x40) * 64 + v / 64 % 0x40) * 64
            + v % 0x40 = v := by omega
        simp only [if_neg h₁, if_neg h₂, if_neg h₃, List.foldl_cons, List.foldl_nil]
        rw [step_lead items (by omega) (by omega) (ofLead?_four (by omega)),
          step_between items (by omega) (by split <;> omega) (by split <;> omega),
          step_between items (by omega) (by omega) (by omega),
          step_last items (by omega) (by omega) (by omega), hbits, hc]

/-! ## §3. Texts. -/

/-- … and those of a text to its characters, … -/
theorem foldl_step_encode (s : List Char) :
    (encode s).foldl Decoder.step ⟨items, none⟩ = ⟨(s.map some).reverse ++ items, none⟩ := by
  induction s generalizing items with
  | nil => rfl
  | cons c s ih =>
      show (String.utf8EncodeChar c ++ encode s).foldl Decoder.step _ = _
      rw [List.foldl_append, foldl_step_encodeChar, ih]
      simp

/-- … with nothing in between. -/
theorem items_encode (s : List Char) : Utf8.items (encode s) = s.map some := by
  unfold Utf8.items
  rw [foldl_step_encode]
  simp [Decoder.finish]

/-- **Every text comes back from its bytes.** -/
theorem decodeLossy_encode (s : List Char) : decodeLossy (encode s) = s := by
  unfold decodeLossy
  rw [items_encode, List.map_map]
  exact List.map_id s

end Utf8

/-! ## §4. Lines. -/

/-- Without carriage returns there is nothing to unify. -/
theorem unifyFrom_of_no_return (done : List Char) {s : List Char} (h : ∀ c ∈ s, c ≠ '\r') :
    unifyFrom done s = done.reverse ++ s := by
  induction s generalizing done with
  | nil => simp [unifyFrom]
  | cons c s ih =>
      have hc := h c List.mem_cons_self
      -- the pair of a carriage return and a line feed has an equation of its own
      rw [unifyFrom.eq_3 done c s (fun t hc' _ => hc hc'), if_neg hc,
        ih (c :: done) fun x hx => h x (List.mem_cons_of_mem c hx)]
      simp

/-- A line is split off with its line feed. -/
theorem splitFrom_line (done : List (List Char)) (line : List Char) {body s : List Char}
    (h : ∀ c ∈ body, c ≠ '\n') :
    splitFrom done line (body ++ '\n' :: s)
      = splitFrom ((line.reverse ++ body ++ ['\n']) :: done) [] s := by
  induction body generalizing line with
  | nil => simp [splitFrom]
  | cons c body ih =>
      rw [List.cons_append, splitFrom, if_neg (h c List.mem_cons_self),
        ih (c :: line) fun x hx => h x (List.mem_cons_of_mem c hx)]
      simp

/-- No line ends in the text. -/
def Inline (s : List Char) : Prop := ∀ c ∈ s, c ≠ '\n' ∧ c ≠ '\r'

theorem inline_append {s t : List Char} (hs : Inline s) (ht : Inline t) : Inline (s ++ t) :=
  List.forall_mem_append.mpr ⟨hs, ht⟩

instance (s : List Char) : Decidable (Inline s) :=
  decidable_of_iff (s.all fun c => c != '\n' && c != '\r') (by simp [Inline])

/-- A text without white space stays within a line. -/
theorem inline_of_without {s : List Char} (h : Without isBlank s) : Inline s := by
  intro c hc
  have hblank := h c hc
  constructor
  · rintro rfl
    exact absurd hblank (by decide)
  · rintro rfl
    exact absurd hblank (by decide)

/-- A line with its line end, which is the only one in it. -/
def IsLine (line : List Char) : Prop := ∃ body, line = body ++ ['\n'] ∧ Inline body

/-- Lines after each other are split where they were joined. -/
theorem splitFrom_flatten (done : List (List Char)) {ls : List (List Char)}
    (h : ∀ line ∈ ls, IsLine line) : splitFrom done [] ls.flatten = done.reverse ++ ls := by
  induction ls generalizing done with
  | nil => simp [splitFrom]
  | cons line ls ih =>
      obtain ⟨body, rfl, hbody⟩ := h line List.mem_cons_self
      rw [List.flatten_cons, List.append_assoc, List.singleton_append,
        splitFrom_line done [] fun c hc => (hbody c hc).1,
        ih _ fun line' hline' => h line' (List.mem_cons_of_mem _ hline')]
      simp

/-- **The lines of a text that was put together from lines.** -/
theorem lines_flatten {ls : List (List Char)} (h : ∀ line ∈ ls, IsLine line) :
    lines ls.flatten = ls := by
  -- without carriage returns the line ends stay as they are
  have hreturn : ∀ c ∈ ls.flatten, c ≠ '\r' := by
    intro c hc
    obtain ⟨line, hline, hc⟩ := List.mem_flatten.mp hc
    obtain ⟨body, rfl, hbody⟩ := h line hline
    rcases List.mem_append.mp hc with hc | hc
    · exact (hbody c hc).2
    · rw [List.mem_singleton.mp hc]
      decide
  unfold lines unifyLineEnds
  rw [unifyFrom_of_no_return [] hreturn]
  exact splitFrom_flatten [] h

end SlabWaste.Text
