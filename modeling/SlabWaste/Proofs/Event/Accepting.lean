/-
  SlabWaste.Proofs.Event.Accepting
  ────────────────────────────────
  **WHICH RECORDS ARE EVENTS.**

  A record of an event that the family has is an event just when its fields say
  one: an allocation its address, its call site and its two sizes, a release its
  address.  Any other such record is malformed, and a record of another event is
  neither:

      Says                     what the fields say, for a way to write numbers
      understand_eq_ok_iff     a record is understood just when they do
      malformed_record         what is counted

  The numbers may be spelled in more ways than are documented, negative sizes
  among them.  Where no number has a character that documented ones have not, an
  event is what the documented spellings say.

  Main result: `RawEvent.accepted_iff_says`.
-/
import SlabWaste.Fault
import SlabWaste.Proofs.Event.Reading
import SlabWaste.Proofs.Number.Spelling
import SlabWaste.Proofs.Tally.Requests

namespace SlabWaste

open SlabWaste.Symbols SlabWaste.Text
open SlabWaste.Numeral (Spelled Documented isExtra)

/-! ## §1. Fields. -/

namespace RawEvent

variable {raw : RawEvent} {key : String}

theorem field_eq_ok_iff {s : String} : raw.field key = .ok s ↔ raw.fields.lookup key = some s := by
  unfold field
  cases raw.fields.lookup key with
  | none => simp
  | some t => simp

/-- A number is found just if its field is there and can be read. -/
theorem number_eq_ok_iff {read : String → Except Numeral.Fault Int} {n : Int} :
    raw.number key read = .ok n ↔ ∃ s, raw.fields.lookup key = some s ∧ read s = .ok n := by
  constructor
  · intro h
    obtain ⟨s, hfield, hread⟩ := bind_eq_ok h
    refine ⟨s, field_eq_ok_iff.mp hfield, ?_⟩
    cases hs : read s with
    | error fault =>
        rw [hs] at hread
        cases hread
    | ok m =>
        rw [hs] at hread
        injection hread with hread
        rw [hread]
  · rintro ⟨s, hfield, hread⟩
    exact number_of_lookup hfield hread

end RawEvent

/-- A text writes an address: the null address has a spelling of its own. -/
def WritesAddress (writes : Radix → List Char → Int → Prop) (s : String) (n : Int) : Prop :=
  s = "(null)" ∧ n = 0 ∨ writes .sixteen s.toList n

/-- An address is read from a spelling of it, and from nothing else. -/
theorem readAddress_eq_ok_iff {s : String} {n : Int} :
    readAddress s = .ok n ↔ WritesAddress Spelled s n := by
  unfold readAddress WritesAddress
  by_cases hs : s = "(null)"
  · rw [if_pos hs]
    constructor
    · intro h
      injection h with h
      exact Or.inl ⟨hs, h.symm⟩
    · rintro (⟨-, rfl⟩ | h)
      · rfl
      · -- the spelling is that of no number
        have hnone : Numeral.read .sixteen "(null)" = .error (.malformed .sixteen "(null)") := by
          decide +kernel
        rw [← Numeral.read_eq_ok_iff, hs, hnone] at h
        cases h
  · rw [if_neg hs, Numeral.read_eq_ok_iff]
    exact (or_iff_right fun h => hs h.1).symm

/-! ## §2. What the fields say. -/

namespace RawEvent

/-- The fields of an event of a kind that are read as numbers. -/
def numericFields : Kind → List String
  | .alloc => ["ptr", "bytes_req", "bytes_alloc"]
  | .free => ["ptr"]

/-- The fields say an event of a kind, their numbers being written in a given way. -/
inductive Says (writes : Radix → List Char → Int → Prop) (raw : RawEvent) : Kind → Event → Prop where
  | allocate {ptr site req alloc : String} {address requested granted : Int}
      (hptr : raw.fields.lookup "ptr" = some ptr) (haddress : WritesAddress writes ptr address)
      (hsite : raw.fields.lookup "call_site" = some site)
      (hreq : raw.fields.lookup "bytes_req" = some req)
      (hrequested : writes .ten req.toList requested)
      (halloc : raw.fields.lookup "bytes_alloc" = some alloc)
      (hgranted : writes .ten alloc.toList granted) :
      Says writes raw .alloc (.allocate address (.text site) ⟨granted, requested⟩)
  | release {ptr : String} {address : Int} (hptr : raw.fields.lookup "ptr" = some ptr)
      (haddress : WritesAddress writes ptr address) : Says writes raw .free (.release address)

variable {raw : RawEvent} {kind : Kind} {e : Event}

/-- What fields say depends on how their numbers are written only. -/
theorem Says.imp {writes others : Radix → List Char → Int → Prop} (h : raw.Says writes kind e)
    (hfields : ∀ key ∈ numericFields kind, ∀ s, raw.fields.lookup key = some s →
      ∀ radix n, writes radix s.toList n → others radix s.toList n) :
    raw.Says others kind e := by
  cases h with
  | allocate hptr haddress hsite hreq hrequested halloc hgranted =>
      exact .allocate hptr (haddress.imp_right (hfields _ (by decide) _ hptr _ _)) hsite
        hreq (hfields _ (by decide) _ hreq _ _ hrequested)
        halloc (hfields _ (by decide) _ halloc _ _ hgranted)
  | release hptr haddress =>
      exact .release hptr (haddress.imp_right (hfields _ (by decide) _ hptr _ _))

/-- **A record is understood just when its fields say an event.** -/
theorem understand_eq_ok_iff : raw.understand kind = .ok e ↔ raw.Says Spelled kind e := by
  constructor
  · intro h
    cases kind with
    | alloc =>
        -- the fields are read one after the other, each by the `bind` of its own
        obtain ⟨address, hptr, h⟩ := bind_eq_ok h
        obtain ⟨site, hsite, h⟩ := bind_eq_ok h
        obtain ⟨requested, hreq, h⟩ := bind_eq_ok h
        obtain ⟨granted, halloc, h⟩ := bind_eq_ok h
        injection h with h
        subst h
        obtain ⟨ptr, hptr, haddress⟩ := number_eq_ok_iff.mp hptr
        obtain ⟨req, hreq, hrequested⟩ := number_eq_ok_iff.mp hreq
        obtain ⟨alloc, halloc, hgranted⟩ := number_eq_ok_iff.mp halloc
        exact .allocate hptr (readAddress_eq_ok_iff.mp haddress) (field_eq_ok_iff.mp hsite)
          hreq (Numeral.read_eq_ok_iff.mp hrequested) halloc (Numeral.read_eq_ok_iff.mp hgranted)
    | free =>
        obtain ⟨address, hptr, h⟩ := bind_eq_ok h
        injection h with h
        subst h
        obtain ⟨ptr, hptr, haddress⟩ := number_eq_ok_iff.mp hptr
        exact .release hptr (readAddress_eq_ok_iff.mp haddress)
  · intro h
    cases h with
    | allocate hptr haddress hsite hreq hrequested halloc hgranted =>
        exact understand_alloc hptr (readAddress_eq_ok_iff.mpr haddress) hsite
          hreq (Numeral.read_eq_ok_iff.mpr hrequested) halloc (Numeral.read_eq_ok_iff.mpr hgranted)
    | release hptr haddress =>
        exact understand_free hptr (readAddress_eq_ok_iff.mpr haddress)

/-- No number of the record has a character that documented spellings have not. -/
def Plain (raw : RawEvent) (kind : Kind) : Prop :=
  ∀ key ∈ numericFields kind, ∀ s, raw.fields.lookup key = some s → Without isExtra s.toList

/-- **Where fields have no extra characters, both readings agree.** -/
theorem Plain.says_iff (h : raw.Plain kind) :
    raw.Says Spelled kind e ↔ raw.Says Documented kind e :=
  ⟨fun hsays => hsays.imp fun key hkey s hs _ _ => (Numeral.spelled_iff (h key hkey s hs)).mp,
    fun hsays => hsays.imp fun _ _ _ _ _ _ => Documented.spelled⟩

end RawEvent

/-- No number of an event is negative. -/
def Event.Natural : Event → Prop
  | .allocate address _ bytes => 0 ≤ address ∧ 0 ≤ bytes.granted ∧ 0 ≤ bytes.requested
  | .release address => 0 ≤ address

/-- No documented spelling has a sign. -/
theorem WritesAddress.nonneg {s : String} {n : Int} (h : WritesAddress Documented s n) : 0 ≤ n := by
  rcases h with ⟨-, rfl⟩ | h
  · exact Int.le_refl 0
  · exact h.nonneg

/-- What a record says in documented spellings is an event with natural numbers. -/
theorem RawEvent.Says.natural {raw : RawEvent} {kind : Kind} {e : Event}
    (h : raw.Says Documented kind e) : e.Natural := by
  cases h with
  | allocate hptr haddress hsite hreq hrequested halloc hgranted =>
      exact ⟨haddress.nonneg, hgranted.nonneg, hrequested.nonneg⟩
  | release hptr haddress => exact haddress.nonneg

/-! ## §3. Records of a family. -/

variable {family : Family} {raw : RawEvent}

/-- A record of a kind is an event just if it says what that kind asks for. -/
theorem RawEvent.event?_eq_of_kind? {kind : Kind} (h : family.kind? raw.event = some kind)
    {e : Event} : raw.event? family = some e ↔ raw.Says Spelled kind e := by
  rw [← understand_eq_ok_iff]
  unfold event? interpret
  simp only [h]
  cases raw.understand kind with
  | error why => simp
  | ok own => simp

/-- A record is passed over just if its family does not know it, … -/
theorem interpret_eq_unrelated_iff :
    interpret family raw = .unrelated ↔ family.knows raw.event = false := by
  unfold interpret Family.knows
  cases family.kind? raw.event with
  | none => simp
  | some kind =>
      simp only [Option.isSome_some, Bool.true_eq_false, iff_false]
      cases raw.understand kind with
      | error why => exact nofun
      | ok e => exact nofun

/-- … and then it is no event. -/
theorem RawEvent.event?_eq_none (h : family.knows raw.event = false) :
    raw.event? family = none := by
  unfold event?
  rw [interpret_eq_unrelated_iff.mpr h]

/-- A record of an event that the family has counts as malformed if it is no event, and no other
record does. -/
theorem Tally.malformed_record (family : Family) (raw : RawEvent) (t : Tally) (r : Resolver) :
    (t.record family r raw).1.malformed
      = t.malformed + if family.knows raw.event = true ∧ raw.event? family = none then 1 else 0 := by
  unfold Tally.record RawEvent.event?
  cases hread : interpret family raw with
  | unrelated =>
      have hknows := interpret_eq_unrelated_iff.mp hread
      simp [hknows]
  | malformed why =>
      have hknows : family.knows raw.event ≠ false := fun h => by
        rw [interpret_eq_unrelated_iff.mpr h] at hread
        cases hread
      simp [hknows]
  | event e =>
      obtain ⟨-, hmalformed, -⟩ := apply_frame { t with records := t.records + 1 } (e.resolve r).1
      rw [if_neg fun h => nomatch h.2]
      exact hmalformed

/-- **Which records are events.**  A record of an event that the family has is an event just when
its fields say one, in any spelling of their numbers; with documented numbers no number of the event
is negative, and if no number has an extra character only they make an event.  Any other record of
an event that the family has counts as malformed, once, and is no event; a record of an event that
it has not is no event either, and counts nothing. -/
theorem RawEvent.accepted_iff_says (family : Family) (raw : RawEvent) :
    (∀ kind, family.kind? raw.event = some kind →
      (∀ e, raw.event? family = some e ↔ raw.Says Spelled kind e)
        ∧ (∀ e, raw.Says Documented kind e → raw.event? family = some e ∧ e.Natural)
        ∧ (raw.Plain kind → ∀ e, raw.event? family = some e ↔ raw.Says Documented kind e))
      ∧ (family.knows raw.event = false → raw.event? family = none)
      ∧ ∀ (t : Tally) (r : Resolver),
        (t.record family r raw).1.malformed
          = t.malformed
            + if family.knows raw.event = true ∧ raw.event? family = none then 1 else 0 := by
  refine ⟨fun kind hkind => ⟨fun e => RawEvent.event?_eq_of_kind? hkind, fun e hsays => ?_,
    fun hplain e => ?_⟩, RawEvent.event?_eq_none, Tally.malformed_record family raw⟩
  · have hspelled := hsays.imp fun _ _ _ _ _ _ => Documented.spelled
    exact ⟨(RawEvent.event?_eq_of_kind? hkind).mpr hspelled, hsays.natural⟩
  · rw [RawEvent.event?_eq_of_kind? hkind, hplain.says_iff]

/-- An allocation in capital and in small letters, with zeros in front. -/
def capitals : RawEvent where
  event := "kmem_cache_alloc"
  fields := [("call_site", ""), ("ptr", "0x00aB"), ("bytes_req", "007"), ("bytes_alloc", "8")]

/-- A release of what is no address. -/
def addressless : RawEvent where
  event := "kmem_cache_free"
  fields := [("ptr", "0xg")]

/-- To their family the one is an event and the other is malformed, to another they are nothing. -/
theorem RawEvent.accepted_capitals :
    capitals.Plain .alloc
      ∧ capitals.event? .cache = some (.allocate 0xab (.text "") ⟨8, 7⟩)
      ∧ capitals.event? .malloc = none
      ∧ ∀ (t : Tally) (r : Resolver),
        (t.record .cache r capitals).1.malformed = t.malformed
          ∧ (t.record .cache r addressless).1.malformed = t.malformed + 1
          ∧ (t.record .malloc r addressless).1.malformed = t.malformed := by
  -- its numbers have none of the signs, blanks and low lines that are not documented
  have hfields : ∀ key ∈ RawEvent.numericFields .alloc, ∀ s ∈ capitals.fields.lookup key,
      Without isExtra s.toList := by decide +kernel
  have hplain : capitals.Plain .alloc := hfields
  obtain ⟨hkind, -, hcount⟩ := RawEvent.accepted_iff_says .cache capitals
  obtain ⟨-, hnone, -⟩ := RawEvent.accepted_iff_says .malloc capitals
  have haddress : WritesAddress Documented "0x00aB" 0xab :=
    Or.inr (.marked ⟨"00aB".toList, by decide, by decide⟩)
  have hrequested : Documented .ten "007".toList 7 :=
    .bare ⟨"007".toList, by decide, by decide⟩ (by decide)
  have hgranted : Documented .ten "8".toList 8 :=
    .bare ⟨"8".toList, by decide, by decide⟩ (by decide)
  have hsays : capitals.Says Documented .alloc (.allocate 0xab (.text "") ⟨8, 7⟩) :=
    .allocate (by decide) haddress (by decide) (by decide) hrequested (by decide) hgranted
  have hevent := ((hkind .alloc (by decide)).2.2 hplain _).mpr hsays
  refine ⟨hplain, hevent, hnone (by decide), fun t r => ⟨?_, ?_, ?_⟩⟩
  · rw [hcount, hevent]
    simp
  · rw [(RawEvent.accepted_iff_says .cache addressless).2.2]
    rw [if_pos (by decide +kernel)]
  · rw [(RawEvent.accepted_iff_says .malloc addressless).2.2]
    rw [if_neg (by decide +kernel)]
    rfl

/-- An allocation that asks for fewer than no bytes. -/
def negativeSize : RawEvent where
  event := "kmalloc"
  fields := [("ptr", "10"), ("call_site", "f"), ("bytes_req", "-5"), ("bytes_alloc", "8")]

/-- **A negative size is taken for a size**, though sizes are documented as decimal digits: the
record is an event that its fields do not say in documented spellings. -/
theorem RawEvent.accepted_negativeSize :
    negativeSize.event? .all = some (.allocate 0x10 (.text "f") ⟨8, -5⟩)
      ∧ ¬ ∃ e, negativeSize.Says Documented .alloc e := by
  refine ⟨by decide +kernel, ?_⟩
  rintro ⟨e, h⟩
  cases h with
  | @allocate _ _ req _ _ _ _ hptr haddress hsite hreq hrequested halloc hgranted =>
      have hreq : some "-5" = some req := hreq
      injection hreq with hreq
      have hsign := hrequested.without '-' (by rw [← hreq]; decide)
      exact absurd hsign (by decide)

end SlabWaste
