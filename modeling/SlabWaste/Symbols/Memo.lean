/-
  SlabWaste.Symbols.Memo
  ──────────────────────
  **A SYMBOL TABLE THAT REMEMBERS.**

  A trace asks for few call sites and asks for each of them often.  The memo
  keeps every address that the table covered, with its answer, until another
  table is loaded.

      Memo.lookup m a     the answer for an address, and the memo that knows it
      Memo.caller m site  the caller behind a call site, and the memo after it
-/
import SlabWaste.Symbols.Table
import Std.Data.ExtTreeMap

namespace SlabWaste.Symbols

/-- A table and the answers given so far. -/
structure Memo where
  table : Table := {}
  answers : Std.ExtTreeMap Int String compare := ∅

namespace Memo

/-- A table that has not been asked yet. -/
def fresh (table : Table) : Memo := { table }

/-- The name of the symbol that covers an address, from the answers given before or else from the
table. -/
def lookup (m : Memo) (a : Int) : Option String × Memo :=
  if m.table.covers a then
    match m.answers[a]? with
    | some name => (some name, m)
    | none =>
        match m.table.lookup a with
        | some name => (some name, { m with answers := m.answers.insert a name })
        | none => (none, m)
  else (none, m)

/-- The caller behind a call site. -/
def caller (m : Memo) (site : CallSite) : String × Memo :=
  match site.address? with
  | none => (site.caller, m)
  | some a =>
      let (name, m) := m.lookup a
      (name.getD site.caller, m)

/-- The remembered answers, by ascending address. -/
def remembered (m : Memo) : List (Int × String) := m.answers.toList

end Memo

/-! ## Naming rules. -/

/-- A way to name the caller behind a call site. -/
inductive Resolver where
  /-- A rule that looks at the call site only. -/
  | rule (name : CallSite → String)
  /-- A symbol table. -/
  | table (memo : Memo)

namespace Resolver

/-- Every call site by its own name. -/
def plain : Resolver := .rule CallSite.caller

/-- The caller behind a call site, and the resolver after the question. -/
def caller : Resolver → CallSite → String × Resolver
  | .rule name, site => (name site, .rule name)
  | .table memo, site =>
      let (name, memo) := memo.caller site
      (name, .table memo)

end Resolver

end SlabWaste.Symbols
