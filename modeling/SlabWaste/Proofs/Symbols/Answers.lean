/-
  SlabWaste.Proofs.Symbols.Answers
  ────────────────────────────────
  **A RESOLVER IS A FUNCTION.**

  A memo answers from its table or from what it remembers.  As long as what it
  remembers are answers of its table, nobody can tell the two apart, and a
  question leaves it so.  A resolver then names callers by one fixed rule:

      Resolver.naming r            the rule
      Resolver.Sound.caller_fst    every answer of `r` is that of the rule
      Resolver.Sound.caller_snd    … and stays so after the question
-/
import SlabWaste.Symbols.Memo

namespace SlabWaste.Symbols

/-! ## §1. Memos. -/

/-- Whatever the memo remembers is what its table says. -/
def Memo.Sound (m : Memo) : Prop :=
  ∀ (a : Int) (name : String), m.answers[a]? = some name → m.table.lookup a = some name

namespace Memo

/-- A table that was not asked yet remembers nothing wrong. -/
theorem sound_fresh (table : Table) : (fresh table).Sound := by
  intro a name h
  unfold fresh at h
  simp at h

/-- Asking for an address gives what the table says. -/
theorem Sound.lookup_fst {m : Memo} (h : m.Sound) (a : Int) :
    (m.lookup a).1 = m.table.lookup a := by
  unfold Memo.lookup
  by_cases hc : m.table.covers a = true
  · rw [if_pos hc]
    cases hm : m.answers[a]? with
    | some name => exact (h a name hm).symm
    | none =>
        cases hl : m.table.lookup a with
        | some name => rfl
        | none => rfl
  · rw [if_neg hc]
    unfold Table.lookup
    rw [if_neg hc]

/-- Asking changes at most what is remembered. -/
theorem table_lookup_snd (m : Memo) (a : Int) : (m.lookup a).2.table = m.table := by
  unfold Memo.lookup
  split
  · split
    · rfl
    · split <;> rfl
  · rfl

/-- What is remembered after a question is what the table says. -/
theorem Sound.lookup_snd {m : Memo} (h : m.Sound) (a : Int) : (m.lookup a).2.Sound := by
  unfold Memo.lookup
  split
  · split
    · exact h
    · split
      next name hl =>
        -- the answer that is remembered now has just come from the table
        intro b other hb
        have hb' : (m.answers.insert a name)[b]? = some other := hb
        rw [Std.ExtTreeMap.getElem?_insert] at hb'
        split at hb'
        next hab =>
          have hab : a = b := by simpa using hab
          injection hb' with hb'
          subst hab hb'
          exact hl
        next => exact h b other hb'
      next => exact h
  · exact h

/-- The caller behind a call site is the one that the table gives it. -/
theorem Sound.caller_fst {m : Memo} (h : m.Sound) (site : CallSite) :
    (m.caller site).1 = m.table.caller site := by
  unfold Memo.caller Table.caller
  cases site.address? with
  | none => rfl
  | some a =>
      show (m.lookup a).1.getD site.caller = (m.table.lookup a).getD site.caller
      rw [h.lookup_fst]

/-- To name a caller leaves the table as it is, … -/
theorem table_caller_snd (m : Memo) (site : CallSite) : (m.caller site).2.table = m.table := by
  unfold Memo.caller
  cases site.address? with
  | none => rfl
  | some a => exact m.table_lookup_snd a

/-- … and what is remembered stays right. -/
theorem Sound.caller_snd {m : Memo} (h : m.Sound) (site : CallSite) : (m.caller site).2.Sound := by
  unfold Memo.caller
  cases site.address? with
  | none => exact h
  | some a => exact h.lookup_snd a

end Memo

/-! ## §2. Resolvers. -/

namespace Resolver

/-- The rule by which a resolver names callers. -/
def naming : Resolver → CallSite → String
  | .rule name => name
  | .table memo => memo.table.caller

/-- A symbol table remembers only its own answers; a rule remembers none. -/
def Sound : Resolver → Prop
  | .rule _ => True
  | .table memo => memo.Sound

theorem sound_plain : plain.Sound := trivial

/-- A resolver names a caller by its rule, whatever it remembers. -/
theorem Sound.caller_fst {r : Resolver} (h : r.Sound) (site : CallSite) :
    (r.caller site).1 = r.naming site := by
  cases r with
  | rule name => rfl
  | table memo => exact Memo.Sound.caller_fst h site

/-- To name a caller does not change the rule. -/
theorem naming_caller_snd (r : Resolver) (site : CallSite) :
    (r.caller site).2.naming = r.naming := by
  cases r with
  | rule name => rfl
  | table memo =>
      show (memo.caller site).2.table.caller = memo.table.caller
      rw [memo.table_caller_snd site]

/-- To name a caller leaves a resolver sound. -/
theorem Sound.caller_snd {r : Resolver} (h : r.Sound) (site : CallSite) :
    (r.caller site).2.Sound := by
  cases r with
  | rule name => trivial
  | table memo => exact Memo.Sound.caller_snd h site

end Resolver

/-! ## §3. The empty table. -/

theorem Table.lookup_empty (a : Int) : ({} : Table).lookup a = none := rfl

/-- Without symbols every call site goes by its own name. -/
theorem Table.caller_empty : ({} : Table).caller = CallSite.caller := by
  funext site
  unfold Table.caller
  cases site.address? with
  | none => rfl
  | some a =>
      show (({} : Table).lookup a).getD site.caller = site.caller
      rw [Table.lookup_empty]
      rfl

end SlabWaste.Symbols
