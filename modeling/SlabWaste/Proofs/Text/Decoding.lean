/-
  SlabWaste.Proofs.Text.Decoding
  ──────────────────────────────
  **WHICH BYTES ARE TEXT.**

  The strict decoder takes just the bytes of texts: whatever it accepts, encoded
  again, gives the bytes back.

      Owed                   what a begun character still waits for
      encode_of_decode?      accepted bytes are the encoding of their text
      decode?_eq_some_iff    … and of no other text
-/
import SlabWaste.Proofs.Text.Encoding

namespace SlabWaste.Text.Utf8

/-! ## §1. Characters that are begun. -/

/-- Whatever bytes follow within the bounds, those read and they are the encoding of the character
whose bits they hold: `missing` bytes are to come, the first of them between `low` and `high`. -/
def Owed : (missing : Nat) → (read : List UInt8) → (bits low high : Nat) → Prop
  | 0, read, bits, _, _ => read = String.utf8EncodeChar (Char.ofNat bits)
  | missing + 1, read, bits, low, high =>
      ∀ b : UInt8, low ≤ b.toNat → b.toNat ≤ high →
        Owed missing (read ++ [b]) (bits * 64 + (b.toNat - 0x80)) 0x80 0xBF

theorem ofNat_eq {b : UInt8} {n : Nat} (h : n = b.toNat) : UInt8.ofNat n = b := by
  rw [h, UInt8.ofNat_toNat]

/-- A number that is neither a surrogate nor out of range is that of a character. -/
theorem val_ofNat {v : Nat} (h : v < 0xD800 ∨ 0xDFFF < v ∧ v < 0x110000) :
    (Char.ofNat v).val.toNat = v := by
  have hv : v.isValidChar := h
  unfold Char.ofNat
  rw [dif_pos hv]
  show (UInt32.ofNatLT v _).toNat = v
  exact UInt32.toNat_ofNatLT

/-- A byte below 0x80 is the whole of its character. -/
theorem encodeChar_one {b : UInt8} (h : b.toNat < 0x80) :
    [b] = String.utf8EncodeChar (Char.ofNat b.toNat) := by
  unfold String.utf8EncodeChar
  rw [val_ofNat (by omega)]
  simp only [if_pos (show b.toNat ≤ 0x7F by omega), UInt8.ofNat_toNat]

/-- After the first of two bytes, one more is owed. -/
theorem owed_two {b : UInt8} (hlow : 0xC2 ≤ b.toNat) (hhigh : b.toNat ≤ 0xDF) :
    Owed 1 [b] (b.toNat - 0xC0) 0x80 0xBF := by
  intro c hc hc'
  show [b, c] = String.utf8EncodeChar _
  unfold String.utf8EncodeChar
  rw [val_ofNat (by omega)]
  simp only [if_neg (show ¬ (b.toNat - 0xC0) * 64 + (c.toNat - 0x80) ≤ 0x7F by omega),
    if_pos (show (b.toNat - 0xC0) * 64 + (c.toNat - 0x80) ≤ 0x7FF by omega)]
  rw [ofNat_eq (b := b) (by omega), ofNat_eq (b := c) (by omega)]

/-- The bounds on the second byte leave out code points of two bytes and surrogates. -/
theorem owed_three {b : UInt8} {low high : Nat} (hb : 0xE0 ≤ b.toNat) (hb' : b.toNat ≤ 0xEF)
    (hlow : 0x80 ≤ low) (hhigh : high ≤ 0xBF) (hover : b.toNat = 0xE0 → 0xA0 ≤ low)
    (hsurrogate : b.toNat = 0xED → high ≤ 0x9F) :
    Owed 2 [b] (b.toNat - 0xE0) low high := by
  intro c hc hc' d hd hd'
  show [b, c, d] = String.utf8EncodeChar _
  unfold String.utf8EncodeChar
  rw [val_ofNat (by omega)]
  generalize hv : ((b.toNat - 0xE0) * 64 + (c.toNat - 0x80)) * 64 + (d.toNat - 0x80) = v
  simp only [if_neg (show ¬ v ≤ 0x7F by omega), if_neg (show ¬ v ≤ 0x7FF by omega),
    if_pos (show v ≤ 0xFFFF by omega)]
  rw [ofNat_eq (b := b) (by omega), ofNat_eq (b := c) (by omega), ofNat_eq (b := d) (by omega)]

/-- The bounds on the second byte leave out code points of three bytes and what is too great. -/
theorem owed_four {b : UInt8} {low high : Nat} (hb : 0xF0 ≤ b.toNat) (hb' : b.toNat ≤ 0xF4)
    (hlow : 0x80 ≤ low) (hhigh : high ≤ 0xBF) (hover : b.toNat = 0xF0 → 0x90 ≤ low)
    (hgreat : b.toNat = 0xF4 → high ≤ 0x8F) :
    Owed 3 [b] (b.toNat - 0xF0) low high := by
  intro c hc hc' d hd hd' e he he'
  show [b, c, d, e] = String.utf8EncodeChar _
  unfold String.utf8EncodeChar
  rw [val_ofNat (by omega)]
  generalize hv : (((b.toNat - 0xF0) * 64 + (c.toNat - 0x80)) * 64 + (d.toNat - 0x80)) * 64
    + (e.toNat - 0x80) = v
  simp only [if_neg (show ¬ v ≤ 0x7F by omega), if_neg (show ¬ v ≤ 0x7FF by omega),
    if_neg (show ¬ v ≤ 0xFFFF by omega)]
  rw [ofNat_eq (b := b) (by omega), ofNat_eq (b := c) (by omega), ofNat_eq (b := d) (by omega),
    ofNat_eq (b := e) (by omega)]

/-- A byte that begins a character leaves it owing what the decoder waits for. -/
theorem owed_of_ofLead? {b : UInt8} {p : Pending} (h : Pending.ofLead? b.toNat = some p) :
    0 < p.missing ∧ Owed p.missing [b] p.bits p.low p.high := by
  unfold Pending.ofLead? at h
  -- in the order in which the decoder tells the bytes apart
  split at h
  · next htwo =>
      injection h with h
      subst h
      exact ⟨Nat.succ_pos 0, owed_two htwo.1 htwo.2⟩
  split at h
  · next he0 =>
      have howed : Owed 2 [b] (b.toNat - 0xE0) 0xA0 0xBF := by
        apply owed_three <;> omega
      injection h with h
      subst h
      rw [he0] at howed
      exact ⟨Nat.succ_pos 1, howed⟩
  split at h
  · next hed =>
      have howed : Owed 2 [b] (b.toNat - 0xE0) 0x80 0x9F := by
        apply owed_three <;> omega
      injection h with h
      subst h
      rw [hed] at howed
      exact ⟨Nat.succ_pos 1, howed⟩
  split at h
  · next hthree =>
      have howed : Owed 2 [b] (b.toNat - 0xE0) 0x80 0xBF := by
        apply owed_three <;> omega
      injection h with h
      subst h
      exact ⟨Nat.succ_pos 1, howed⟩
  split at h
  · next hf0 =>
      have howed : Owed 3 [b] (b.toNat - 0xF0) 0x90 0xBF := by
        apply owed_four <;> omega
      injection h with h
      subst h
      rw [hf0] at howed
      exact ⟨Nat.succ_pos 2, howed⟩
  split at h
  · next hfour =>
      have howed : Owed 3 [b] (b.toNat - 0xF0) 0x80 0xBF := by
        apply owed_four <;> omega
      injection h with h
      subst h
      exact ⟨Nat.succ_pos 2, howed⟩
  split at h
  · next hf4 =>
      have howed : Owed 3 [b] (b.toNat - 0xF0) 0x80 0x8F := by
        apply owed_four <;> omega
      injection h with h
      subst h
      rw [hf4] at howed
      exact ⟨Nat.succ_pos 2, howed⟩
  · cases h

/-! ## §2. The decoder. -/

/-- The bytes read are the encoding of the characters found, and of one that is begun, if any. -/
def Decoder.Holds (d : Decoder) (read : List UInt8) : Prop :=
  ∃ (s : List Char) (begun : List UInt8), read = encode s ++ begun
    ∧ d.items = (s.map some).reverse
    ∧ match d.pending with
      | none => begun = []
      | some p => 0 < p.missing ∧ Owed p.missing begun p.bits p.low p.high

/-- A decoder that has read nothing holds nothing. -/
theorem holds_start : ({} : Decoder).Holds [] := ⟨[], [], rfl, rfl, rfl⟩

theorem encode_append_singleton (s : List Char) (c : Char) :
    encode (s ++ [c]) = encode s ++ String.utf8EncodeChar c := by
  unfold encode
  rw [List.flatMap_append, List.flatMap_singleton]

/-- A byte after a whole character: it is one of its own, or begins one. -/
theorem holds_decoderStart {s : List Char} {b : UInt8}
    (h : none ∉ (Decoder.start (s.map some).reverse b.toNat).items) :
    (Decoder.start (s.map some).reverse b.toNat).Holds (encode s ++ [b]) := by
  unfold Decoder.start at h ⊢
  by_cases hascii : b.toNat < 0x80
  · rw [if_pos hascii]
    refine ⟨s ++ [Char.ofNat b.toNat], [], ?_, by simp, rfl⟩
    rw [List.append_nil, encode_append_singleton, ← encodeChar_one hascii]
  · rw [if_neg hascii] at h ⊢
    cases hlead : Pending.ofLead? b.toNat with
    | none =>
        rw [hlead] at h
        exact absurd List.mem_cons_self h
    | some p => exact ⟨s, [b], rfl, rfl, owed_of_ofLead? hlead⟩

/-- One byte keeps it so, as long as nothing is found that is no character. -/
theorem Decoder.Holds.step {d : Decoder} {read : List UInt8} (h : d.Holds read) {b : UInt8}
    (hnone : none ∉ (d.step b).items) : (d.step b).Holds (read ++ [b]) := by
  obtain ⟨items, pending⟩ := d
  obtain ⟨s, begun, hread, hitems, hpending⟩ := h
  simp only at hitems
  subst hread hitems
  -- between two characters the byte begins one, and inside of one it goes on with it or not
  cases pending with
  | none =>
      simp only at hpending
      subst hpending
      rw [List.append_nil]
      exact holds_decoderStart hnone
  | some p =>
      obtain ⟨hmissing, howed⟩ := hpending
      unfold Decoder.step at hnone ⊢
      simp only at hnone ⊢
      by_cases hbounds : p.low ≤ b.toNat ∧ b.toNat ≤ p.high
      · rw [if_pos hbounds]
        obtain ⟨rest, hrest⟩ := Nat.exists_eq_succ_of_ne_zero (Nat.ne_of_gt hmissing)
        rw [hrest] at howed
        have hnext := howed b hbounds.1 hbounds.2
        by_cases hlast : p.missing ≤ 1
        · -- the character is complete
          rw [if_pos hlast]
          have hzero : rest = 0 := by omega
          subst hzero
          have hchar : begun ++ [b] = String.utf8EncodeChar _ := hnext
          refine ⟨s ++ [Char.ofNat (p.bits * 64 + (b.toNat - 0x80))], [], ?_, by simp, rfl⟩
          rw [List.append_nil, encode_append_singleton, ← hchar, List.append_assoc]
        · rw [if_neg hlast]
          refine ⟨s, begun ++ [b], List.append_assoc _ _ _, rfl, ?_, ?_⟩
          · show 0 < p.missing - 1
            omega
          · show Owed (p.missing - 1) _ _ _ _
            rw [show p.missing - 1 = rest by omega]
            exact hnext
      · -- the begun character is given up
        rw [if_neg hbounds] at hnone
        refine absurd ?_ hnone
        unfold Decoder.start
        split
        · exact List.mem_cons_of_mem _ List.mem_cons_self
        · split
          · exact List.mem_cons_self
          · exact List.mem_cons_of_mem _ List.mem_cons_self

/-- What was found stays found. -/
theorem items_suffix_step (d : Decoder) (b : UInt8) : d.items <:+ (d.step b).items := by
  have hstart : ∀ items : List (Option Char), items <:+ (Decoder.start items b.toNat).items := by
    intro items
    unfold Decoder.start
    -- whatever the byte does, items are only put in front
    split
    · exact List.suffix_cons _ _
    · split
      · exact List.suffix_refl _
      · exact List.suffix_cons _ _
  unfold Decoder.step
  split
  · exact hstart d.items
  · simp only
    split
    · split
      · exact List.suffix_cons _ _
      · exact List.suffix_refl _
    · exact (List.suffix_cons _ _).trans (hstart _)

/-- What was decoded is not taken back. -/
theorem items_suffix_foldl (d : Decoder) (bytes : List UInt8) :
    d.items <:+ (bytes.foldl Decoder.step d).items := by
  induction bytes generalizing d with
  | nil => exact List.suffix_refl _
  | cons b bytes ih => exact (items_suffix_step d b).trans (ih (d.step b))

/-- As long as nothing is wrong, a decoder holds all that it has read. -/
theorem Decoder.Holds.foldl {d : Decoder} {read : List UInt8} (h : d.Holds read)
    {bytes : List UInt8} (hnone : none ∉ (bytes.foldl Decoder.step d).items) :
    (bytes.foldl Decoder.step d).Holds (read ++ bytes) := by
  induction bytes generalizing d read with
  | nil =>
      rw [List.append_nil]
      exact h
  | cons b bytes ih =>
      have hstep : none ∉ (d.step b).items := fun hmem =>
        hnone ((items_suffix_foldl (d.step b) bytes).subset hmem)
      have hrest := ih (h.step hstep) hnone
      rw [List.append_assoc] at hrest
      exact hrest

/-! ## §3. Texts. -/

/-- Items make a text just if none of them is missing. -/
theorem mapM_id_eq_some_iff {items : List (Option Char)} {s : List Char} :
    items.mapM id = some s ↔ items = s.map some := by
  induction items generalizing s with
  | nil =>
      cases s with
      | nil => simp
      | cons c s => simp
  | cons item items ih =>
      cases item with
      | none => cases s <;> simp
      | some c =>
          rw [List.mapM_cons]
          cases hrest : items.mapM id with
          | none =>
              cases s with
              | nil => simp
              | cons x s =>
                  have hno : items ≠ s.map some := by
                    intro heq
                    rw [ih.mpr heq] at hrest
                    cases hrest
                  simp [hno]
          | some t =>
              have ht := ih.mp hrest
              subst ht
              cases s with
              | nil => simp
              | cons x s => simp [List.map_inj_right]

/-- Bytes that are accepted are those of the text that they are read as. -/
theorem encode_of_decode? {bytes : List UInt8} {s : List Char} (h : decode? bytes = some s) :
    bytes = encode s := by
  have hitems : items bytes = s.map some := mapM_id_eq_some_iff.mp h
  unfold items Decoder.finish at hitems
  cases hpending : (bytes.foldl Decoder.step {}).pending with
  | some p =>
      -- a character that is still begun would leave an empty item behind
      rw [hpending] at hitems
      have hmem : none ∈ s.map some := by
        rw [← hitems]
        simp
      simp at hmem
  | none =>
      rw [hpending] at hitems
      have hfound : (bytes.foldl Decoder.step {}).items.reverse = s.map some := hitems
      have hnone : none ∉ (bytes.foldl Decoder.step {}).items := by
        intro hmem
        rw [← List.mem_reverse, hfound] at hmem
        simp at hmem
      obtain ⟨t, begun, hread, ht, hbegun⟩ := holds_start.foldl hnone
      rw [hpending] at hbegun
      simp only at hbegun
      rw [ht, List.reverse_reverse] at hfound
      rw [List.nil_append, hbegun, List.append_nil] at hread
      have hsame := (List.map_inj_right fun _ _ => Option.some.inj).mp hfound
      rw [hread, hsame]

/-- **The strict decoder accepts the encodings of texts, and nothing else.** -/
theorem decode?_eq_some_iff {bytes : List UInt8} {s : List Char} :
    decode? bytes = some s ↔ bytes = encode s := by
  constructor
  · exact encode_of_decode?
  · intro h
    unfold decode?
    rw [h, items_encode, mapM_id_eq_some_iff]

end SlabWaste.Text.Utf8
