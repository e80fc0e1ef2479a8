/-
  SlabWaste.Proofs.Tally.Naming
  ─────────────────────────────
  **ONE NAME FOR EACH ADDRESS.**

  The same caller comes in as a number or as hexadecimal text, with or without 0x,
  in either case, with any zeros in front, and is named by a rule or by a symbol
  table.  It gets one name all the same, so its figures stay in one row, and those
  of two callers in two:

      address?_of_documented    a hexadecimal text is the number that it denotes
      hex_inj                   no two numbers have one name
      caller_of_address?        a symbol table sees the number only
      caller_without_symbols    and without symbols it is the rule

  Main result: `Session.one_name_each`.
-/
import SlabWaste.Proofs.Symbols.Checked
import SlabWaste.Proofs.Tally.Requests

namespace SlabWaste

open SlabWaste.Numeral SlabWaste.Symbols SlabWaste.Text

/-! ## §1. Texts that are addresses. -/

/-- A digit of a documented spelling is one for the reader of call sites. -/
theorem hexDigit?_of_isAsciiDigit {c : Char} (h : isAsciiDigit .sixteen c = true) :
    ∃ d, hexDigit? c = some d := by
  obtain ⟨⟨d, hd⟩, hextra⟩ := asciiDigit_class h
  refine ⟨d, ?_⟩
  unfold hexDigit?
  rw [if_pos (isExtra_eq_false_iff.mp hextra).2.2, hd]

/-- A text of such digits is read to its end. -/
theorem exists_mapM_hexDigit? {s : List Char} (h : Within (isAsciiDigit .sixteen) s) :
    ∃ ds, s.mapM hexDigit? = some ds := by
  induction s with
  | nil => exact ⟨[], rfl⟩
  | cons c s ih =>
      obtain ⟨d, hd⟩ := hexDigit?_of_isAsciiDigit (h c List.mem_cons_self)
      obtain ⟨ds, hds⟩ := ih fun x hx => h x (List.mem_cons_of_mem c hx)
      refine ⟨d :: ds, ?_⟩
      rw [List.mapM_cons, hd, hds]
      rfl

/-- A line feed is no digit, so digits at the end of a text stay. -/
theorem getLast?_append_digits (front : List Char) (body : Piece (isAsciiDigit .sixteen)) :
    (front ++ body.text).getLast? ≠ some '\n' := by
  intro hlast
  rw [List.getLast?_append_of_ne_nil front body.ne] at hlast
  have hfeed := body.within '\n' (List.mem_of_getLast? hlast)
  exact absurd hfeed (by decide)

/-- The letter of the mark is no digit, so bare digits have none to lose. -/
theorem hexBody_bare (body : Piece (isAsciiDigit .sixteen)) : hexBody body.text = body.text := by
  have hlast : body.text.getLast? ≠ some '\n' := getLast?_append_digits [] body
  unfold hexBody
  rw [if_neg hlast]
  simp only
  split
  · next digits hmark =>
      have hx := body.within 'x' (by rw [hmark]; simp)
      exact absurd hx (by decide)
  · rfl

/-- A mark in front is left out. -/
theorem hexBody_marked (body : Piece (isAsciiDigit .sixteen)) :
    hexBody ('0' :: 'x' :: body.text) = body.text := by
  have hlast : ('0' :: 'x' :: body.text).getLast? ≠ some '\n' :=
    getLast?_append_digits ['0', 'x'] body
  unfold hexBody
  rw [if_neg hlast]
  rfl

/-- **A documented spelling is an address to the reader of call sites.** -/
theorem exists_hexText? {s : List Char} {n : Int} (h : Documented .sixteen s n) :
    ∃ k, hexText? s = some k := by
  have hbody : ∀ body : Piece (isAsciiDigit .sixteen), hexBody s = body.text →
      ∃ k, hexText? s = some k := by
    intro body hs
    obtain ⟨ds, hds⟩ := exists_mapM_hexDigit? body.within
    have hne : body.text.isEmpty = false := List.isEmpty_eq_false_iff.mpr body.ne
    refine ⟨value .sixteen ds, ?_⟩
    unfold hexText?
    simp only [hs, hne, hds]
    rfl
  cases h with
  | bare body _ => exact hbody body (hexBody_bare body)
  | marked body => exact hbody body (hexBody_marked body)

namespace CallSite

/-- **A hexadecimal text is the address that it denotes**, however it is spelled. -/
theorem address?_of_documented {s : String} {n : Int} (h : Documented .sixteen s.toList n) :
    (CallSite.text s).address? = some n := by
  obtain ⟨k, hk⟩ := exists_hexText? h
  -- the text is read as a number in one way only
  have hread := read_of_hexText? hk
  rw [read_of_spelled h.spelled] at hread
  injection hread with hread
  show (hexText? s.toList).map Int.ofNat = some n
  rw [hk, hread]
  rfl

end CallSite

/-! ## §2. Names of addresses. -/

namespace Numeral

/-- Different numbers are printed differently. -/
theorem toDigits_sixteen_inj {m n : Nat} (h : Nat.toDigits 16 m = Nat.toDigits 16 n) : m = n := by
  have hread := read_hexadecimal m
  rw [h, read_hexadecimal n] at hread
  injection hread with hread
  exact (Int.ofNat_inj.mp hread).symm

/-- A digit is no sign. -/
theorem toDigits_sixteen_ne (m : Nat) (s : List Char) : Nat.toDigits 16 m ≠ '-' :: s := by
  intro heq
  rw [show Nat.toDigits 16 m = digitText (digitValues .sixteen m) from
    toDigits_eq_digitText .sixteen m] at heq
  have hsign : '-' ∈ digitText (digitValues .sixteen m) := by
    rw [heq]
    exact List.mem_cons_self
  obtain ⟨d, hd, hdsign⟩ := List.mem_map.mp hsign
  exact digitChar_ne (digitValues_lt .sixteen m d hd) (by decide) hdsign

/-- The characters of an address after its mark. -/
theorem toList_hex (n : Int) :
    (hex n).toList
      = '0' :: 'x' :: if n < 0 then '-' :: Nat.toDigits 16 n.natAbs else Nat.toDigits 16 n.natAbs := by
  have hdigits := String.toList_ofList (l := Nat.toDigits 16 n.natAbs)
  unfold hex signed
  rw [String.toList_append]
  split
  · rw [String.toList_append, hdigits]
    rfl
  · rw [hdigits]
    rfl

/-- **No two integers are printed alike in hexadecimal.** -/
theorem hex_inj {m n : Int} : hex m = hex n ↔ m = n := by
  refine ⟨fun h => ?_, congrArg hex⟩
  have hlist := congrArg String.toList h
  rw [toList_hex, toList_hex] at hlist
  injection hlist with _ hlist
  injection hlist with _ hlist
  -- the sign stands after the mark, and no digit is a sign
  split at hlist
  · next hm =>
      split at hlist
      · next hn =>
          injection hlist with _ hlist
          have habs := toDigits_sixteen_inj hlist
          omega
      · exact absurd hlist.symm (toDigits_sixteen_ne _ _)
  · next hm =>
      split at hlist
      · exact absurd hlist (toDigits_sixteen_ne _ _)
      · next hn =>
          have habs := toDigits_sixteen_inj hlist
          omega

end Numeral

/-- Of call sites that are addresses, those of one address have one name, and no others do. -/
theorem CallSite.caller_inj {site other : CallSite} {m n : Int} (hsite : site.address? = some m)
    (hother : other.address? = some n) : site.caller = other.caller ↔ m = n := by
  rw [caller_of_address? hsite, caller_of_address? hother, hex_inj]

/-! ## §3. Symbol tables. -/

namespace Symbols.Memo

/-- **A symbol table sees the address only**, and remembers its answer under it. -/
theorem caller_of_address? {site : CallSite} {n : Int} (h : site.address? = some n) (m : Memo) :
    m.caller site = m.caller (.address n) := by
  have haddress : (CallSite.address n).address? = some n := rfl
  unfold caller
  rw [h, haddress, CallSite.caller_of_address? h, CallSite.caller_of_address? haddress]

/-- Without symbols a call site goes by its own name, and nothing new is remembered. -/
theorem caller_without_symbols (answers : Std.ExtTreeMap Int String compare) (site : CallSite) :
    (Memo.mk {} answers).caller site = (site.caller, Memo.mk {} answers) := by
  unfold caller
  cases site.address? with
  | none => rfl
  | some n => rfl

end Symbols.Memo

/-! ## §4. Sessions. -/

namespace Session

/-- Without a symbol table a trace is accounted for as its events are, given one after the other. -/
theorem core_run_without_symbols (family : Family) (tally : Tally) (trace : Trace.Reader) :
    (({ family, tally } : Session).run {} trace).tally.core
      = (({ family, tally } : Session).processAll
          (RawEvent.events family (trace.records.map (·.toRawEvent)))).tally.core := by
  have hfresh : (Resolver.table (.fresh {})).Sound := Memo.sound_fresh {}
  have hrun := Tally.Moved.run hfresh family tally trace
  have hplain : ({ family, tally } : Session).Sound := Resolver.sound_plain
  have hnaming : (Resolver.table (.fresh {})).naming = ({ family, tally } : Session).naming :=
    Table.caller_empty
  rw [tally_processAll hplain, Tally.core_foldl_apply, ← hnaming]
  exact hrun.core

/-- **One name for each address.**  Of two hexadecimal texts, with or without 0x and with digits in
either case:
* a symbol table in any state gives each the name that it gives the number that the text denotes,
  and is in the same state after it;
* without a symbol table they have the same name just when they denote the same number;
* a symbol table without symbols gives every call site, whether text or number, the name that it has
  without a table, and stays as it is;
* so a session that has no rule of its own credits the same callers with the events of a trace
  without a map, whether it is given the trace or its events one by one. -/
theorem one_name_each {s t : String} {m n : Int} (hs : Documented .sixteen s.toList m)
    (ht : Documented .sixteen t.toList n) :
    (∀ memo : Memo, memo.caller (.text s) = memo.caller (.address m))
      ∧ ((CallSite.text s).caller = (CallSite.text t).caller ↔ m = n)
      ∧ (∀ answers site, (Memo.mk {} answers).caller site = (site.caller, Memo.mk {} answers))
      ∧ ∀ family tally (trace : Trace.Reader),
          (({ family, tally } : Session).run {} trace).tally.core
            = (({ family, tally } : Session).processAll
                (RawEvent.events family (trace.records.map (·.toRawEvent)))).tally.core := by
  have hsite := CallSite.address?_of_documented hs
  have hother := CallSite.address?_of_documented ht
  refine ⟨?_, ?_, Memo.caller_without_symbols, core_run_without_symbols⟩
  · intro memo
    exact memo.caller_of_address? hsite
  · exact CallSite.caller_inj hsite hother

/-- One address in two spellings, with all that may differ between them. -/
theorem one_name_each_twoSpellings :
    Documented .sixteen "0xFFFFFFFF811A2C3B".toList 0xFFFFFFFF811A2C3B
      ∧ Documented .sixteen "00ffffffff811a2C3b".toList 0xFFFFFFFF811A2C3B
      ∧ (CallSite.text "0xFFFFFFFF811A2C3B").caller = (CallSite.text "00ffffffff811a2C3b").caller
      ∧ ∀ memo : Memo,
          memo.caller (.text "0xFFFFFFFF811A2C3B") = memo.caller (.address 0xFFFFFFFF811A2C3B) := by
  have hmarked : Documented .sixteen "0xFFFFFFFF811A2C3B".toList 0xFFFFFFFF811A2C3B :=
    .marked ⟨"FFFFFFFF811A2C3B".toList, by decide, by decide⟩
  have hbare : Documented .sixteen "00ffffffff811a2C3b".toList 0xFFFFFFFF811A2C3B :=
    .bare ⟨"00ffffffff811a2C3b".toList, by decide, by decide⟩ (by decide)
  obtain ⟨htable, hnames, -, -⟩ := one_name_each hmarked hbare
  exact ⟨hmarked, hbare, hnames.mpr rfl, htable⟩

end Session

end SlabWaste
