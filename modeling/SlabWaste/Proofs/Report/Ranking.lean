/-
  SlabWaste.Proofs.Report.Ranking
  ───────────────────────────────
  **THERE IS ONE ORDER OF A REPORT.**

  Callers are ranked by their waste, and by their names where they waste as much.
  No two callers of a table have the same name, so no two of them tie: what a table
  holds determines its ranking, and the order in which its callers came up does not
  matter.

      sort_of_perm        callers with different names are ranked in one way
      mem_ranked_iff      a table ranks its entries, with their waste up to date
      strict_ranked       of two callers the first wastes more, or has the lesser name
      ranked_congr        tables with the same entries have the same ranking
-/
import SlabWaste.Proofs.Tally.Balance
import Mathlib.Data.List.Nodup

namespace SlabWaste

/-! ## §1. The order. -/

namespace Report

/-- The more wasteful caller comes first, and of two that waste the same the one whose name does. -/
theorem precedes_iff {a b : Caller} :
    precedes a b = true
      ↔ b.usage.waste < a.usage.waste ∨ a.usage.waste = b.usage.waste ∧ a.name ≤ b.name := by
  unfold precedes
  simp only [Bool.or_eq_true, Bool.and_eq_true, decide_eq_true_eq, beq_iff_eq]

theorem precedes_trans (a b c : Caller) (hab : precedes a b = true) (hbc : precedes b c = true) :
    precedes a c = true := by
  rw [precedes_iff] at hab hbc ⊢
  rcases hab with hab | ⟨hab, hname⟩
  · rcases hbc with hbc | ⟨hbc, -⟩
    · exact Or.inl (Int.lt_trans hbc hab)
    · exact Or.inl (hbc ▸ hab)
  · rcases hbc with hbc | ⟨hbc, hnext⟩
    · exact Or.inl (hab ▸ hbc)
    · exact Or.inr ⟨hab.trans hbc, String.le_trans hname hnext⟩

theorem precedes_total (a b : Caller) : (precedes a b || precedes b a) = true := by
  rw [Bool.or_eq_true, precedes_iff, precedes_iff]
  rcases Int.lt_trichotomy a.usage.waste b.usage.waste with hless | hsame | hmore
  · exact Or.inr (Or.inl hless)
  · rcases String.le_total a.name b.name with hname | hname
    · exact Or.inl (Or.inr ⟨hsame, hname⟩)
    · exact Or.inr (Or.inr ⟨hsame.symm, hname⟩)
  · exact Or.inl (Or.inl hmore)

/-- Callers that may each come first have the same name. -/
theorem name_of_precedes {a b : Caller} (hab : precedes a b = true) (hba : precedes b a = true) :
    a.name = b.name := by
  rw [precedes_iff] at hab hba
  rcases hab with hab | ⟨hab, hname⟩
  · rcases hba with hba | ⟨hba, -⟩
    · exact absurd hba (Int.lt_asymm hab)
    · exact absurd hab (hba ▸ Int.lt_irrefl _)
  · rcases hba with hba | ⟨-, hother⟩
    · exact absurd hba (hab ▸ Int.lt_irrefl _)
    · exact String.le_antisymm hname hother

/-- **There is one order of a report**: callers with different names are ranked the same, in
whatever order they are given. -/
theorem sort_of_perm {as bs : List Caller} (hperm : as.Perm bs)
    (hnames : (as.map (·.name)).Nodup) : sort as = sort bs := by
  have has := List.mergeSort_perm as precedes
  have hbs := List.mergeSort_perm bs precedes
  -- callers that tie have one name, and so are one caller
  apply List.Perm.eq_of_pairwise _ (List.pairwise_mergeSort precedes_trans precedes_total as)
    (List.pairwise_mergeSort precedes_trans precedes_total bs) (has.trans (hperm.trans hbs.symm))
  intro a b ha hb hab hba
  exact List.inj_on_of_nodup_map hnames (has.mem_iff.mp ha)
    (hperm.mem_iff.mpr (hbs.mem_iff.mp hb)) (name_of_precedes hab hba)

/-- A caller comes before another in a report: it wastes more, or as much and has the lesser name. -/
def Before (a b : Caller) : Prop :=
  b.usage.waste < a.usage.waste ∨ a.usage.waste = b.usage.waste ∧ a.name < b.name

/-- Of callers with different names, one comes strictly before the other. -/
theorem before_of_precedes {a b : Caller} (h : precedes a b = true) (hname : a.name ≠ b.name) :
    Before a b := by
  rw [precedes_iff] at h
  rcases h with hwaste | ⟨hwaste, hle⟩
  · exact Or.inl hwaste
  · exact Or.inr ⟨hwaste, Std.lt_of_le_of_ne hle hname⟩

/-- Callers with different names are in a strict order. -/
theorem strict_sort {cs : List Caller} (hnames : (cs.map (·.name)).Nodup) :
    (sort cs).Pairwise Before := by
  have hsorted : (sort cs).Pairwise (precedes · · = true) :=
    List.pairwise_mergeSort precedes_trans precedes_total cs
  have hperm : ((sort cs).map (·.name)).Perm (cs.map (·.name)) :=
    (List.mergeSort_perm cs precedes).map _
  have hdistinct : (sort cs).Pairwise fun a b => a.name ≠ b.name :=
    List.pairwise_map.mp (hperm.nodup_iff.mpr hnames)
  -- two callers tie only if they have one name, and no name comes twice
  exact (hsorted.and hdistinct).imp fun h => before_of_precedes h.1 h.2

end Report

/-! ## §2. The ranking of a table. -/

namespace CallerTable

variable {t u : CallerTable}

/-- An entry is found just if it is in the table under this name. -/
theorem find?_eq_some_iff (t : CallerTable) {f : String} {c : Caller} :
    t.find? f = some c ↔ c ∈ t.rows ∧ c.name = f := by
  unfold find?
  constructor
  · intro h
    have hname := List.find?_some h
    exact ⟨List.mem_of_find?_eq_some h, by simpa using hname⟩
  · rintro ⟨hmem, rfl⟩
    cases hfound : t.rows.find? (·.name == c.name) with
    | none =>
        have hnone := List.find?_eq_none.mp hfound c hmem
        simp at hnone
    | some d =>
        have hname := List.find?_some hfound
        -- names do not repeat, so the row that is found is this one
        have hsame := List.inj_on_of_nodup_map t.nodup (List.mem_of_find?_eq_some hfound) hmem
          (by simpa using hname)
        rw [hsame]

/-- The entries of a table do not depend on the order in which its callers came up. -/
theorem find?_of_perm (h : t.rows.Perm u.rows) (f : String) : t.find? f = u.find? f := by
  apply Option.ext
  intro c
  rw [find?_eq_some_iff, find?_eq_some_iff, h.mem_iff]

/-- The callers in the order of a report are those of the table, with their waste up to date. -/
theorem ranked_perm (t : CallerTable) :
    (Report.ranked t.rows).Perm (t.rows.map Caller.settle) :=
  List.mergeSort_perm _ _

/-- No caller is settled twice, … -/
theorem nodup_settle (t : CallerTable) : ((t.rows.map Caller.settle).map (·.name)).Nodup :=
  t.settle.nodup

/-- … and none is ranked twice. -/
theorem nodup_ranked (t : CallerTable) : ((Report.ranked t.rows).map (·.name)).Nodup :=
  (t.ranked_perm.map _).nodup_iff.mpr t.nodup_settle

/-- In a ranking each caller comes strictly before those that follow. -/
theorem strict_ranked (t : CallerTable) : (Report.ranked t.rows).Pairwise Report.Before :=
  Report.strict_sort t.nodup_settle

/-- What is ranked are the entries of the table, with their waste up to date. -/
theorem mem_ranked_iff {c : Caller} :
    c ∈ Report.ranked t.rows ↔ (t.find? c.name).map Caller.settle = some c := by
  rw [t.ranked_perm.mem_iff, List.mem_map, Option.map_eq_some_iff]
  constructor
  · rintro ⟨d, hd, rfl⟩
    exact ⟨d, t.find?_eq_some_iff.mpr ⟨hd, rfl⟩, rfl⟩
  · rintro ⟨d, hfound, hsettle⟩
    exact ⟨d, (t.find?_eq_some_iff.mp hfound).1, hsettle⟩

/-- **Tables with the same entries are ranked the same**, in whatever order their callers came up,
and whenever their waste was brought up to date. -/
theorem ranked_congr
    (h : ∀ f, (t.find? f).map Caller.settle = (u.find? f).map Caller.settle) :
    Report.ranked t.rows = Report.ranked u.rows := by
  have hperm : (Report.ranked t.rows).Perm (Report.ranked u.rows) := by
    rw [List.perm_ext_iff_of_nodup (.of_map _ t.nodup_ranked) (.of_map _ u.nodup_ranked)]
    intro c
    rw [mem_ranked_iff, mem_ranked_iff, h]
  -- the rankings have the same callers, so the tables have, which is what sorting needs
  have hrows : (t.rows.map Caller.settle).Perm (u.rows.map Caller.settle) :=
    t.ranked_perm.symm.trans (hperm.trans u.ranked_perm)
  exact Report.sort_of_perm hrows t.nodup_settle

end CallerTable

namespace Tally

variable {t : Tally}

/-- The figures of a caller are those of its entry. -/
theorem usage_of_find? {f : String} {c : Caller} (h : t.callers.find? f = some c) :
    t.usage f = c.usage := by
  have h : t.callers.rows.find? (·.name == f) = some c := h
  unfold usage usageOf
  rw [h]
  rfl

/-- A ranking has all callers of the tally, and no others. -/
theorem ranked_perm (t : Tally) : t.ranked.Perm (t.callers.rows.map Caller.settle) :=
  t.callers.ranked_perm

/-- A caller in a report has the figures of the tally, with their waste up to date. -/
theorem usage_of_mem_ranked {c : Caller} (h : c ∈ t.ranked) :
    c.usage = (t.usage c.name).settle := by
  obtain ⟨d, hfound, hsettle⟩ := Option.map_eq_some_iff.mp (CallerTable.mem_ranked_iff.mp h)
  rw [usage_of_find? hfound, ← hsettle]
  rfl

end Tally

/-! ## §3. Tables as they are built. -/

namespace CallerTable

/-- What a table can be asked: that a caller has an entry, and to account for what it was granted or
gave back. -/
inductive Request where
  | create (name : String)
  | allocate (name : String) (bytes : Bytes)
  | release (name : String) (bytes : Bytes)

/-- The caller that a request is about. -/
def Request.name : Request → String
  | .create name => name
  | .allocate name _ => name
  | .release name _ => name

/-- What a request does to the figures of that caller. -/
def Request.change : Request → Usage → Usage
  | .create _ => id
  | .allocate _ bytes => (·.allocate bytes)
  | .release _ bytes => (·.release bytes)

/-- The table after one more request. -/
def serve (t : CallerTable) (q : Request) : CallerTable := t.update q.name q.change

/-- The table after requests, from nothing. -/
def built (qs : List Request) : CallerTable := qs.foldl serve .empty

/-- A caller is in the table just if some request was for it. -/
theorem contains_built (qs : List Request) (f : String) :
    (built qs).contains f = qs.any (·.name == f) := by
  induction qs using List.reverseRecOn with
  | nil => rfl
  | append_singleton qs q ih =>
      unfold built at ih ⊢
      rw [List.foldl_append, List.any_append, ← ih]
      show ((qs.foldl serve .empty).update q.name q.change).contains f = _
      rw [Tally.contains_update]
      simp [Bool.or_comm]

/-- The callers of a ranking are those that have an entry. -/
theorem mem_names_ranked_iff (t : CallerTable) (f : String) :
    f ∈ (Report.ranked t.rows).map (·.name) ↔ t.contains f = true := by
  rw [(t.ranked_perm.map _).mem_iff, List.map_map]
  unfold contains find?
  rw [List.find?_isSome, List.mem_map]
  simp only [beq_iff_eq]
  rfl

end CallerTable

end SlabWaste
