/-
  SlabWaste.Proofs.Symbols.Checked
  ────────────────────────────────
  **EVERY CALL SITE CAN BE NAMED.**

  Naming a caller takes two steps that need not succeed on their own: a text that
  looks like an address is read as a number, and a symbol is taken from the place
  that the search gave.  Here both are written out as steps that may find nothing,
  and neither ever does, for any text, any integer, any table and any memo:

      read_of_hexText?      what looks like an address is read as that address
      place_of_covers       the search in a table ends at one of its symbols
      tryCaller_eq          so naming with all its checks is naming
-/
import SlabWaste.Fault
import SlabWaste.Proofs.Number.Spelling
import SlabWaste.Symbols.Memo
import Mathlib.Data.List.Basic

namespace SlabWaste

open SlabWaste.Numeral SlabWaste.Text

/-- What a step of the tally may fail to find. -/
inductive Gap where
  /-- A call site that looks like an address is no number. -/
  | noAddress (site : String) (fault : Numeral.Fault)
  /-- The search for an address that the table covers ends at no symbol; `place` is how many it
  found at or below the address. -/
  | noSymbol (place : Nat)
  /-- The caller of a live allocation has no entry. -/
  | noEntry (caller : String)
  deriving DecidableEq, Repr

/-! ## §1. Addresses. -/

/-- A hexadecimal digit is one for the reader of numbers, too. -/
theorem digit?_of_hexDigit? {c : Char} {d : Nat} (h : hexDigit? c = some d) :
    digit? .sixteen c = some d := by
  unfold hexDigit? at h
  split at h
  · exact h
  · cases h

/-- Hexadecimal digits are a run, with the same values. -/
theorem run_of_mapM_hexDigit? {s : List Char} {ds : List Nat} (h : s.mapM hexDigit? = some ds)
    {sought : Bool} (hsought : sought = true → s ≠ []) : Run .sixteen sought s ds := by
  induction s generalizing sought ds with
  | nil =>
      cases h
      cases sought with
      | true => exact absurd rfl (hsought rfl)
      | false => exact .done
  | cons c s ih =>
      rw [List.mapM_cons, Option.bind_eq_bind, Option.bind_eq_some_iff] at h
      obtain ⟨d, hd, h⟩ := h
      rw [Option.bind_eq_bind, Option.bind_eq_some_iff] at h
      obtain ⟨rest, hrest, h⟩ := h
      cases h
      exact .digit (digit?_of_hexDigit? hd) (ih hrest nofun)

/-- A hexadecimal text is a mark that may be missing, its digits, and a line feed that may be
missing. -/
theorem hexBody_split (s : List Char) :
    ∃ mark after, Mark .sixteen mark ∧ Within isPad after
      ∧ s = mark ++ (hexBody s ++ after) := by
  -- one final line feed is not part of it
  have hfeed : ∃ t after, Within isPad after ∧ s = t ++ after
      ∧ (if s.getLast? = some '\n' then s.dropLast else s) = t := by
    split
    · next hlast =>
        refine ⟨s.dropLast, ['\n'], ?_, ?_, rfl⟩
        · intro c hc
          rw [List.mem_singleton.mp hc]
          decide
        · exact (List.dropLast_append_getLast? '\n' hlast).symm
    · exact ⟨s, [], nofun, (List.append_nil s).symm, rfl⟩
  obtain ⟨t, after, hafter, hs, ht⟩ := hfeed
  unfold hexBody
  rw [ht, hs]
  simp only
  split
  · exact ⟨['0', 'x'], after, .plain (by decide) (Or.inl rfl), hafter, rfl⟩
  · exact ⟨[], after, .none, hafter, rfl⟩

/-- **What looks like an address is read as that address**, however long it is. -/
theorem read_of_hexText? {site : String} {n : Nat} (h : hexText? site.toList = some n) :
    Numeral.read .sixteen site = .ok n := by
  unfold hexText? at h
  simp only at h
  split at h
  · cases h
  · next hne =>
      obtain ⟨ds, hds, hvalue⟩ := Option.map_eq_some_iff.mp h
      have hrun : Run .sixteen true (hexBody site.toList) ds :=
        run_of_mapM_hexDigit? hds fun _ hnil => hne (by rw [hnil]; rfl)
      obtain ⟨mark, after, hmark, hafter, hs⟩ := hexBody_split site.toList
      have hbefore : Within isPad [] := nofun
      have hspelled := Spelled.mk hbefore .none hmark hrun hafter nofun
      rw [read_eq_ok_iff, hs, ← hvalue]
      exact hspelled

namespace CallSite

/-- The address that a call site denotes, if it looks like one. -/
def tryAddress : CallSite → Except Gap (Option Int)
  | .address n => .ok (some n)
  | .text s =>
      if (hexText? s.toList).isSome then
        match Numeral.read .sixteen s with
        | .ok n => .ok (some n)
        | .error fault => .error (.noAddress s fault)
      else .ok none

/-- **An address is never read in vain**: its digits were looked at before. -/
theorem tryAddress_eq (site : CallSite) : site.tryAddress = .ok site.address? := by
  cases site with
  | address n => rfl
  | text s =>
      unfold tryAddress address?
      simp only
      cases h : hexText? s.toList with
      | none => rfl
      | some n =>
          rw [read_of_hexText? h]
          rfl

/-- The caller behind a call site, without a symbol table. -/
def tryCaller (site : CallSite) : Except Gap String := do
  match ← site.tryAddress, site with
  | some n, _ => .ok (Numeral.hex n)
  | none, .text s => .ok (symbolic s)
  | none, .address n => .ok (Numeral.hex n)

/-- A call site that is an address is named by its hexadecimal text. -/
theorem caller_of_address? {site : CallSite} {n : Int} (h : site.address? = some n) :
    site.caller = Numeral.hex n := by
  cases site with
  | address m =>
      cases h
      rfl
  | text s =>
      obtain ⟨m, hm, hmn⟩ := Option.map_eq_some_iff.mp h
      simp only [caller, hm]
      exact congrArg Numeral.hex hmn

/-- A call site is named without a fault. -/
theorem tryCaller_eq (site : CallSite) : site.tryCaller = .ok site.caller := by
  unfold tryCaller
  rw [tryAddress_eq]
  cases h : site.address? with
  | some n =>
      rw [caller_of_address? h]
      rfl
  | none =>
      cases site with
      | address n => cases h
      | text s =>
          have hs : hexText? s.toList = none := Option.map_eq_none_iff.mp h
          simp only [caller, hs]
          rfl

end CallSite

namespace Symbols

/-! ## §2. Places. -/

namespace Table

/-- The search stays in its range. -/
theorem countBelow_mem_range (t : Table) (a : Int) (low high : Nat) (h : low ≤ high) :
    low ≤ t.countBelow a low high ∧ t.countBelow a low high ≤ high := by
  -- on the search itself: the middle lies between the two, and each half is smaller
  induction low, high using countBelow.induct t a with
  | case1 low high hlt middle hmiddle ih =>
      have hrange : low ≤ middle ∧ middle + 1 ≤ high := by
        show low ≤ (low + high) / 2 ∧ (low + high) / 2 + 1 ≤ high
        omega
      obtain ⟨hlow, hhigh⟩ := ih hrange.2
      rw [countBelow, dif_pos hlt]
      show low ≤ (if t.atOrBelow a middle = true then _ else _) ∧ _ ≤ high
      rw [if_pos hmiddle]
      exact ⟨Nat.le_trans (Nat.le_succ_of_le hrange.1) hlow, hhigh⟩
  | case2 low high hlt middle hmiddle ih =>
      have hrange : low ≤ middle ∧ middle < high := by
        show low ≤ (low + high) / 2 ∧ (low + high) / 2 < high
        omega
      obtain ⟨hlow, hhigh⟩ := ih hrange.1
      rw [countBelow, dif_pos hlt]
      show low ≤ (if t.atOrBelow a middle = true then _ else _) ∧ _ ≤ high
      rw [if_neg hmiddle]
      exact ⟨hlow, Nat.le_trans hhigh (Nat.le_of_lt hrange.2)⟩
  | case3 low high hlt =>
      rw [countBelow, dif_neg hlt]
      exact ⟨Nat.le_refl low, h⟩

/-- A search that begins at a symbol at or below the address finds one, in order or not. -/
theorem lt_countBelow (t : Table) (a : Int) (low high : Nat) (h : low < high)
    (hlow : t.atOrBelow a low = true) : low < t.countBelow a low high := by
  induction low, high using countBelow.induct t a with
  | case1 low high hlt middle hmiddle ih =>
      have hrange : low ≤ middle ∧ middle + 1 ≤ high := by
        show low ≤ (low + high) / 2 ∧ (low + high) / 2 + 1 ≤ high
        omega
      have hfound := (t.countBelow_mem_range a (middle + 1) high hrange.2).1
      rw [countBelow, dif_pos hlt]
      show low < if t.atOrBelow a middle = true then _ else _
      rw [if_pos hmiddle]
      exact Nat.lt_of_lt_of_le (Nat.lt_succ_of_le hrange.1) hfound
  | case2 low high hlt middle hmiddle ih =>
      -- the middle is not the first place, where there is such a symbol
      have hrange : low < middle := by
        have hne : low ≠ middle := fun heq => hmiddle (heq ▸ hlow)
        have hle : low ≤ (low + high) / 2 := by omega
        exact Nat.lt_of_le_of_ne hle hne
      rw [countBelow, dif_pos hlt]
      show low < if t.atOrBelow a middle = true then _ else _
      rw [if_neg hmiddle]
      exact ih hrange hlow
  | case3 low high hlt => exact absurd h hlt

/-- **The search for an address that a table covers ends at one of its symbols.** -/
theorem place_of_covers {t : Table} {a : Int} (h : t.covers a = true) :
    0 < t.countBelow a 0 t.size ∧ ∃ s, t.symbols[t.countBelow a 0 t.size - 1]? = some s := by
  -- an address that is covered is not below the first symbol
  have hfirst : t.atOrBelow a 0 = true := by
    unfold covers at h
    unfold atOrBelow
    cases hzero : t.symbols[0]? with
    | none =>
        rw [hzero] at h
        cases h
    | some first =>
        rw [hzero] at h
        cases hlast : t.symbols.back? with
        | none =>
            rw [hlast] at h
            cases h
        | some last =>
            rw [hlast] at h
            exact (Bool.and_eq_true_iff.mp h).1
  have hsize : 0 < t.size := by
    obtain ⟨s, hs, -⟩ : ∃ s, t.symbols[0]? = some s ∧ _ := by
      unfold atOrBelow at hfirst
      cases hzero : t.symbols[0]? with
      | none =>
          rw [hzero] at hfirst
          cases hfirst
      | some first => exact ⟨first, rfl, trivial⟩
    exact (Array.getElem?_eq_some_iff.mp hs).1
  have hpos := t.lt_countBelow a 0 t.size hsize hfirst
  have hle := (t.countBelow_mem_range a 0 t.size (Nat.zero_le _)).2
  have hplace : t.countBelow a 0 t.size - 1 < t.symbols.size := by
    show _ < t.size
    omega
  exact ⟨hpos, _, Array.getElem?_eq_getElem hplace⟩

end Table

/-! ## §3. Naming. -/

namespace Memo

/-- The name of the symbol that covers an address: one that was given before, or else that of the
symbol at the place where the search ends. -/
def tryLookup (m : Memo) (a : Int) : Except Gap (Option String × Memo) :=
  if m.table.covers a then
    match m.answers[a]? with
    | some name => .ok (some name, m)
    | none =>
        let place := m.table.countBelow a 0 m.table.size
        if place = 0 then .error (.noSymbol place)
        else match m.table.symbols[place - 1]? with
          | some s => .ok (some s.name, { m with answers := m.answers.insert a s.name })
          | none => .error (.noSymbol place)
  else .ok (none, m)

/-- **An address is looked up without a fault.** -/
theorem tryLookup_eq (m : Memo) (a : Int) : m.tryLookup a = .ok (m.lookup a) := by
  unfold tryLookup lookup
  split
  · next hcovers =>
      cases m.answers[a]? with
      | some name => rfl
      | none =>
          obtain ⟨hpos, s, hs⟩ := Table.place_of_covers hcovers
          have hlookup : m.table.lookup a = some s.name := by
            unfold Table.lookup
            rw [if_pos hcovers, hs]
            rfl
          simp only
          rw [if_neg (Nat.ne_of_gt hpos), hs, hlookup]
  · rfl

/-- The caller behind a call site. -/
def tryCaller (m : Memo) (site : CallSite) : Except Gap (String × Memo) := do
  match ← site.tryAddress with
  | none => .ok (← site.tryCaller, m)
  | some a =>
      match ← m.tryLookup a with
      | (some name, m) => .ok (name, m)
      | (none, m) => .ok (← (CallSite.address a).tryCaller, m)

/-- So a caller is named without a fault, whatever is remembered. -/
theorem tryCaller_eq (m : Memo) (site : CallSite) : m.tryCaller site = .ok (m.caller site) := by
  unfold tryCaller caller
  rw [CallSite.tryAddress_eq]
  cases haddress : site.address? with
  | none =>
      show (do .ok (← site.tryCaller, m)) = _
      rw [CallSite.tryCaller_eq]
      rfl
  | some a =>
      show (do match ← m.tryLookup a with
        | (some name, m) => .ok (name, m)
        | (none, m) => .ok (← (CallSite.address a).tryCaller, m))
        = .ok ((m.lookup a).1.getD site.caller, (m.lookup a).2)
      rw [tryLookup_eq, CallSite.tryCaller_eq, CallSite.caller_of_address? haddress]
      obtain ⟨name?, next⟩ := m.lookup a
      cases name? with
      | some name => rfl
      | none => rfl

end Memo

namespace Resolver

/-- The caller behind a call site.  A rule may take the name that the call site has of its own, so
that name has to be there too. -/
def tryCaller : Resolver → CallSite → Except Gap (String × Resolver)
  | .rule name, site => do
      let _ ← site.tryCaller
      .ok (name site, .rule name)
  | .table memo, site => do
      let (name, memo) ← memo.tryCaller site
      .ok (name, .table memo)

/-- **Every call site can be named**, by every resolver and whatever it remembers. -/
theorem tryCaller_eq (r : Resolver) (site : CallSite) : r.tryCaller site = .ok (r.caller site) := by
  cases r with
  | rule name =>
      show (do let _ ← site.tryCaller; .ok (name site, Resolver.rule name)) = _
      rw [CallSite.tryCaller_eq]
      rfl
  | table memo =>
      show (do let (name, memo) ← memo.tryCaller site; .ok (name, Resolver.table memo)) = _
      rw [Memo.tryCaller_eq]
      rfl

end Resolver

end Symbols

end SlabWaste
