/-
  SlabWaste.Proofs.Symbols.Search
  ───────────────────────────────
  **FINDING A SYMBOL BY HALVING.**

  A table is in ascending order, so the symbols at or below an address are the
  first ones of it.  Halving the range finds how many they are, and the last of
  them is the one that covers the address:

      lt_countBelow_iff        what the search finds
      covers_iff               which addresses a table answers
      lookup_eq_some_iff       … and with what
      lookup_eq_none_iff
-/
import SlabWaste.Symbols.Table

namespace SlabWaste.Symbols

/-! ## §1. The order of symbols. -/

namespace Symbol

/-- Symbols are ordered by address, and those of one address by name. -/
theorem le_iff (s u : Symbol) :
    s.le u = true ↔ s.address < u.address ∨ s.address = u.address ∧ s.name ≤ u.name := by
  simp [le]

theorem le_total (s u : Symbol) : s.le u = true ∨ u.le s = true := by
  rw [le_iff, le_iff]
  rcases Int.lt_trichotomy s.address u.address with h | h | h
  · exact Or.inl (Or.inl h)
  · rcases String.le_total s.name u.name with hname | hname
    · exact Or.inl (Or.inr ⟨h, hname⟩)
    · exact Or.inr (Or.inr ⟨h.symm, hname⟩)
  · exact Or.inr (Or.inl h)

theorem le_trans (s u v : Symbol) (hsu : s.le u = true) (huv : u.le v = true) :
    s.le v = true := by
  rw [le_iff] at hsu huv ⊢
  rcases hsu with hsu | ⟨hsu, hnames⟩
  · left
    rcases huv with huv | ⟨huv, -⟩ <;> omega
  · rcases huv with huv | ⟨huv, hnames'⟩
    · left
      omega
    · right
      exact ⟨hsu.trans huv, String.le_trans hnames hnames'⟩

/-- What comes no later has no higher address. -/
theorem address_le_of_le {s u : Symbol} (h : s.le u = true) : s.address ≤ u.address := by
  rw [le_iff] at h
  omega

end Symbol

/-! ## §2. Tables in order. -/

namespace Table

/-- The symbols ascend. -/
def Sorted (t : Table) : Prop := t.symbols.toList.Pairwise fun s u => s.le u = true

theorem sorted_empty : ({} : Table).Sorted := List.Pairwise.nil

/-- A table of any symbols has them in order. -/
theorem sorted_ofSymbols (symbols : List Symbol) : (ofSymbols symbols).Sorted := by
  unfold Sorted ofSymbols
  rw [List.toList_toArray]
  apply List.pairwise_mergeSort
  · exact Symbol.le_trans
  · intro s u
    simpa using Symbol.le_total s u

/-- A table of any symbols has these and no others. -/
theorem mem_ofSymbols {s : Symbol} {symbols : List Symbol} :
    s ∈ (ofSymbols symbols).symbols ↔ s ∈ symbols := by
  unfold ofSymbols
  rw [List.mem_toArray, List.mem_mergeSort]

variable {t : Table} {a : Int}

/-- In an ordered table, the symbol at a higher index comes no earlier. -/
theorem Sorted.le_of_getElem? (h : t.Sorted) {i j : Nat} {s u : Symbol} (hij : i ≤ j)
    (hs : t.symbols[i]? = some s) (hu : t.symbols[j]? = some u) : s.le u = true := by
  rcases Nat.lt_or_eq_of_le hij with hlt | heq
  · obtain ⟨hi, rfl⟩ := Array.getElem?_eq_some_iff.mp hs
    obtain ⟨hj, rfl⟩ := Array.getElem?_eq_some_iff.mp hu
    exact List.pairwise_iff_getElem.mp h i j hi hj hlt
  · rw [heq, hu] at hs
    injection hs with hs
    subst hs
    exact (Symbol.le_total u u).elim id id

/-! ## §3. The search. -/

/-- The question that the search asks of an index. -/
theorem atOrBelow_iff (t : Table) (a : Int) (i : Nat) :
    t.atOrBelow a i = true ↔ ∃ s, t.symbols[i]? = some s ∧ s.address ≤ a := by
  unfold atOrBelow
  cases t.symbols[i]? with
  | none => simp
  | some s => simp

/-- Before a symbol at or below the address there are only such symbols. -/
theorem Sorted.atOrBelow_of_le (h : t.Sorted) {i j : Nat} (hij : i ≤ j)
    (hj : t.atOrBelow a j = true) : t.atOrBelow a i = true := by
  obtain ⟨u, hu, hua⟩ := (t.atOrBelow_iff a j).mp hj
  obtain ⟨hjs, -⟩ := Array.getElem?_eq_some_iff.mp hu
  have hi : i < t.symbols.size := by omega
  have hs : t.symbols[i]? = some t.symbols[i] := Array.getElem?_eq_getElem hi
  have hsu := Symbol.address_le_of_le (h.le_of_getElem? hij hs hu)
  rw [atOrBelow_iff]
  exact ⟨t.symbols[i], hs, by omega⟩

/-- Halving keeps this: below the range all symbols are at or below the address, and above it
none is. -/
theorem Sorted.lt_countBelow_iff_of_range (h : t.Sorted) (low high : Nat) (hle : low ≤ high)
    (hlow : ∀ i, i < low → t.atOrBelow a i = true)
    (hhigh : ∀ i, high ≤ i → t.atOrBelow a i = false) (i : Nat) :
    i < t.countBelow a low high ↔ t.atOrBelow a i = true := by
  induction low, high using countBelow.induct t a with
  | case1 low high hlt middle hmiddle ih =>
      rw [countBelow, dif_pos hlt]
      show i < (if t.atOrBelow a middle = true then _ else _) ↔ _
      rw [if_pos hmiddle]
      have hrange : middle + 1 ≤ high := by
        show (low + high) / 2 + 1 ≤ high
        omega
      refine ih hrange ?_ hhigh
      intro j hj
      exact h.atOrBelow_of_le (by omega) hmiddle
  | case2 low high hlt middle hmiddle ih =>
      rw [countBelow, dif_pos hlt]
      show i < (if t.atOrBelow a middle = true then _ else _) ↔ _
      rw [if_neg hmiddle]
      have hrange : low ≤ middle := by
        show low ≤ (low + high) / 2
        omega
      refine ih hrange hlow ?_
      intro j hj
      -- a symbol at or below the address from the middle on would make the middle one such
      rw [← Bool.not_eq_true]
      intro hbelow
      exact hmiddle (h.atOrBelow_of_le hj hbelow)
  | case3 low high hge =>
      rw [countBelow, dif_neg hge]
      constructor
      · intro hi
        exact hlow i hi
      · intro hi
        rcases Nat.lt_or_ge i low with hlt | hge'
        · exact hlt
        · rw [hhigh i (by omega)] at hi
          cases hi

/-- **The search finds how many symbols are at or below an address**: they are the first ones. -/
theorem Sorted.lt_countBelow_iff (h : t.Sorted) (a : Int) (i : Nat) :
    i < t.countBelow a 0 t.size ↔ t.atOrBelow a i = true := by
  refine h.lt_countBelow_iff_of_range 0 t.size (Nat.zero_le _) ?_ ?_ i
  · intro j hj
    omega
  · intro j hj
    have hnone : t.symbols[j]? = none := Array.getElem?_eq_none hj
    unfold atOrBelow
    rw [hnone]

/-! ## §4. Answers. -/

/-- The symbol begins at or below the address, and all others that do so come before it: they begin
at lower addresses or, at the same address, have names that are not greater. -/
structure Closest (t : Table) (a : Int) (s : Symbol) : Prop where
  mem : s ∈ t.symbols
  below : s.address ≤ a
  greatest : ∀ u ∈ t.symbols, u.address ≤ a →
    u.address < s.address ∨ u.address = s.address ∧ u.name ≤ s.name

/-- There are no symbols, or the address lies below the least of theirs or above the greatest. -/
def Outside (t : Table) (a : Int) : Prop :=
  t.symbols = #[] ∨ (∀ s ∈ t.symbols, a < s.address) ∨ ∀ s ∈ t.symbols, s.address < a

/-- No two symbols that differ are both the closest one. -/
theorem Closest.unique {s u : Symbol} (hs : t.Closest a s) (hu : t.Closest a u) : s = u := by
  have hus := hs.greatest u hu.mem hu.below
  have hsu := hu.greatest s hs.mem hs.below
  have haddress : s.address = u.address := by omega
  have hname : s.name = u.name := by
    apply String.le_antisymm
    · exact (hsu.resolve_left (by omega)).2
    · exact (hus.resolve_left (by omega)).2
  cases s
  cases u
  simp only at haddress hname
  rw [haddress, hname]

/-- A table covers an address just if it is not outside of it. -/
theorem Sorted.covers_iff (h : t.Sorted) (a : Int) : t.covers a = true ↔ ¬ t.Outside a := by
  rcases Nat.eq_zero_or_pos t.symbols.size with hsize | hsize
  · have hempty : t.symbols = #[] := Array.eq_empty_of_size_eq_zero hsize
    unfold covers Outside
    simp [hempty]
  · -- the first and the last symbol have the least and the greatest address
    have hfirst : t.symbols[0]? = some t.symbols[0] := Array.getElem?_eq_getElem hsize
    have hlast : t.symbols.back? = some (t.symbols[t.symbols.size - 1]) := by
      rw [Array.back?_eq_getElem?]
      exact Array.getElem?_eq_getElem (by omega)
    have hends : ∀ s ∈ t.symbols, t.symbols[0].address ≤ s.address
        ∧ s.address ≤ (t.symbols[t.symbols.size - 1]).address := by
      intro s hs
      obtain ⟨i, hi⟩ := Array.mem_iff_getElem?.mp hs
      obtain ⟨hisize, -⟩ := Array.getElem?_eq_some_iff.mp hi
      rw [Array.back?_eq_getElem?] at hlast
      exact ⟨Symbol.address_le_of_le (h.le_of_getElem? (Nat.zero_le i) hfirst hi),
        Symbol.address_le_of_le (h.le_of_getElem? (by omega) hi hlast)⟩
    have hne : t.symbols ≠ #[] := Array.ne_empty_of_size_pos hsize
    have hcovers : t.covers a = true
        ↔ t.symbols[0].address ≤ a ∧ a ≤ (t.symbols[t.symbols.size - 1]).address := by
      unfold covers
      rw [hfirst, hlast]
      simp
    rw [hcovers]
    constructor
    · rintro ⟨hlow, hhigh⟩ (hempty | habove | hbelow)
      · exact hne hempty
      · have := habove _ (Array.getElem_mem hsize)
        omega
      · have := hbelow _ (Array.getElem_mem (show t.symbols.size - 1 < t.symbols.size by omega))
        omega
    · -- were the address beyond one end, it would be beyond every symbol
      intro houtside
      constructor
      · apply Int.not_lt.mp
        intro hlt
        refine houtside (Or.inr (Or.inl fun s hs => ?_))
        have := (hends s hs).1
        omega
      · apply Int.not_lt.mp
        intro hlt
        refine houtside (Or.inr (Or.inr fun s hs => ?_))
        have := (hends s hs).2
        omega

/-- In the table's range there is a closest symbol, and the search ends at it. -/
theorem Sorted.closest_of_covers (h : t.Sorted) (hc : t.covers a = true) :
    ∃ s, t.symbols[t.countBelow a 0 t.size - 1]? = some s ∧ t.Closest a s := by
  have hfirst : t.atOrBelow a 0 = true := by
    rw [atOrBelow_iff]
    unfold covers at hc
    split at hc
    · next first last hf hl =>
        refine ⟨first, hf, ?_⟩
        simp only [Bool.and_eq_true, decide_eq_true_eq] at hc
        exact hc.1
    · cases hc
  have hpos := (h.lt_countBelow_iff a 0).mpr hfirst
  obtain ⟨s, hs, hsa⟩ := (t.atOrBelow_iff a _).mp
    ((h.lt_countBelow_iff a (t.countBelow a 0 t.size - 1)).mp (by omega))
  refine ⟨s, hs, Array.mem_of_getElem? hs, hsa, ?_⟩
  intro u hu hua
  obtain ⟨j, hj⟩ := Array.mem_iff_getElem?.mp hu
  -- a symbol at or below the address is among those that are counted
  have hjlt := (h.lt_countBelow_iff a j).mpr ((t.atOrBelow_iff a j).mpr ⟨u, hj, hua⟩)
  exact (Symbol.le_iff u s).mp (h.le_of_getElem? (by omega) hj hs)

/-- **An address in the table's range gets the name of its closest symbol.** -/
theorem Sorted.lookup_eq_some_iff (h : t.Sorted) (a : Int) (name : String) :
    t.lookup a = some name ↔ ¬ t.Outside a ∧ ∃ s, t.Closest a s ∧ s.name = name := by
  rw [← h.covers_iff]
  unfold lookup
  by_cases hc : t.covers a = true
  · obtain ⟨s, hs, hclosest⟩ := h.closest_of_covers hc
    rw [if_pos hc, hs]
    show some s.name = some name ↔ _
    rw [Option.some.injEq]
    constructor
    · intro hname
      exact ⟨hc, s, hclosest, hname⟩
    · rintro ⟨-, u, hu, hname⟩
      rw [hclosest.unique hu]
      exact hname
  · rw [if_neg hc]
    simp [hc]

/-- **Any other address gets no name.** -/
theorem Sorted.lookup_eq_none_iff (h : t.Sorted) (a : Int) :
    t.lookup a = none ↔ t.Outside a := by
  constructor
  · intro hnone
    apply Classical.byContradiction
    intro houtside
    obtain ⟨s, -, hclosest⟩ := h.closest_of_covers ((h.covers_iff a).mpr houtside)
    have hsome := (h.lookup_eq_some_iff a s.name).mpr ⟨houtside, s, hclosest, rfl⟩
    rw [hnone] at hsome
    cases hsome
  · intro houtside
    have hc : ¬ t.covers a = true := by
      rw [h.covers_iff]
      exact fun hno => hno houtside
    unfold lookup
    rw [if_neg hc]

end Table

end SlabWaste.Symbols
