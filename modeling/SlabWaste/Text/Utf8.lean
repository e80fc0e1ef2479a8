/-
  SlabWaste.Text.Utf8
  ───────────────────
  **READING UTF-8.**

  A file is bytes.  The decoder walks over them once and yields one item for
  each character, and one empty item for each stretch of bytes that no
  character begins with.  Such a stretch is as long as it can be while its bytes
  still could begin a character, and it ends before the byte that spoils it.

      decode? bs       the text, if every byte belongs to a character
      decodeLossy bs   the text with U+FFFD for each stretch that does not
-/

namespace SlabWaste.Text.Utf8

/-! ## §1. Characters of several bytes. -/

/-- A character whose first bytes have been read. -/
structure Pending where
  /-- The bits of the code point read so far. -/
  bits : Nat
  /-- How many bytes are still to come, at least one. -/
  missing : Nat
  /-- The least value of the next byte. -/
  low : Nat
  /-- The greatest value of the next byte. -/
  high : Nat

/-- What a byte begins, if it begins a character of several bytes.  The bounds on the second byte
leave out overlong forms, surrogates and what lies past U+10FFFF. -/
def Pending.ofLead? (b : Nat) : Option Pending :=
  if 0xC2 ≤ b ∧ b ≤ 0xDF then some ⟨b - 0xC0, 1, 0x80, 0xBF⟩
  else if b = 0xE0 then some ⟨0, 2, 0xA0, 0xBF⟩
  else if b = 0xED then some ⟨0xD, 2, 0x80, 0x9F⟩
  else if 0xE1 ≤ b ∧ b ≤ 0xEF then some ⟨b - 0xE0, 2, 0x80, 0xBF⟩
  else if b = 0xF0 then some ⟨0, 3, 0x90, 0xBF⟩
  else if 0xF1 ≤ b ∧ b ≤ 0xF3 then some ⟨b - 0xF0, 3, 0x80, 0xBF⟩
  else if b = 0xF4 then some ⟨4, 3, 0x80, 0x8F⟩
  else none

/-! ## §2. The decoder. -/

/-- The state of a decoder: the items found, last first, and the character begun. -/
structure Decoder where
  items : List (Option Char) := []
  pending : Option Pending := none

/-- Read a byte that no begun character claims. -/
def Decoder.start (items : List (Option Char)) (b : Nat) : Decoder :=
  if b < 0x80 then ⟨some (Char.ofNat b) :: items, none⟩
  else match Pending.ofLead? b with
    | some p => ⟨items, some p⟩
    | none => ⟨none :: items, none⟩

/-- Read one byte. -/
def Decoder.step (d : Decoder) (byte : UInt8) : Decoder :=
  let b := byte.toNat
  match d.pending with
  | none => .start d.items b
  | some p =>
      if p.low ≤ b ∧ b ≤ p.high then
        let bits := p.bits * 64 + (b - 0x80)
        if p.missing ≤ 1 then ⟨some (Char.ofNat bits) :: d.items, none⟩
        else ⟨d.items, some ⟨bits, p.missing - 1, 0x80, 0xBF⟩⟩
      else .start (none :: d.items) b

/-- The items in order, once the bytes have ended. -/
def Decoder.finish (d : Decoder) : List (Option Char) :=
  (if d.pending.isSome then none :: d.items else d.items).reverse

/-- The characters of a sequence of bytes, and `none` for each stretch that is none. -/
def items (bytes : List UInt8) : List (Option Char) :=
  (bytes.foldl Decoder.step {}).finish

/-! ## §3. Texts. -/

/-- The text that is written in a sequence of bytes, if all of it is UTF-8. -/
def decode? (bytes : List UInt8) : Option (List Char) := (items bytes).mapM id

/-- The text of a sequence of bytes, with the replacement character wherever it is not UTF-8. -/
def decodeLossy (bytes : List UInt8) : List Char :=
  (items bytes).map (·.getD '\uFFFD')

end SlabWaste.Text.Utf8
