/-
  SlabWaste.Proofs.Trace.Merge
  ────────────────────────────
  **MERGING ANY NUMBER OF STREAMS.**

  Streams are merged by taking, again and again, the least of their heads.  The
  streams need not be sorted: `Drained` says what comes out of any streams, and
  folding a merge of two over them does just that.

      drained_iff            what comes out is the folded merge, and nothing else
      mergeAll_perm          nothing is lost and nothing is made up
      pairwise_mergeAll      sorted streams come out sorted
      filter_key_mergeAll    each stream comes out in its own order
      perm_of_ties           a list has the elements of its ties, each as often
      eq_of_ties             a sorted list is determined by the order of its ties
-/
import Mathlib.Data.List.Flatten
import Mathlib.Data.List.Nodup

namespace SlabWaste.Trace

variable {α : Type*}

/-! ## §1. The two definitions. -/

/-- The streams merged one after the other, from the last to the first. -/
def mergeAll (le : α → α → Bool) (streams : List (List α)) : List α :=
  streams.foldr (fun s merged => s.merge merged le) []

/-- What comes out of streams from whose heads the least is taken until all are empty. -/
inductive Drained (le : α → α → Bool) : List (List α) → List α → Prop where
  | done {streams : List (List α)} (empty : ∀ s ∈ streams, s = []) : Drained le streams []
  | take {before after : List (List α)} {a : α} {s out : List α}
      (least : ∀ t ∈ before ++ after, ∀ b ∈ t.head?, le a b = true)
      (rest : Drained le (before ++ s :: after) out) :
      Drained le (before ++ (a :: s) :: after) (a :: out)

theorem mergeAll_cons (le : α → α → Bool) (s : List α) (streams : List (List α)) :
    mergeAll le (s :: streams) = s.merge (mergeAll le streams) le := rfl

/-! ## §2. Nothing is lost. -/

/-- Merging neither adds nor drops anything. -/
theorem mergeAll_perm (le : α → α → Bool) (streams : List (List α)) :
    (mergeAll le streams).Perm streams.flatten := by
  induction streams with
  | nil => exact List.Perm.refl _
  | cons s streams ih =>
      rw [mergeAll_cons, List.flatten_cons]
      exact (List.merge_perm_append le).trans (ih.append_left s)

/-- If nothing comes out, there was nothing in any stream. -/
theorem eq_nil_of_mergeAll_eq_nil {le : α → α → Bool} {streams : List (List α)}
    (h : mergeAll le streams = []) : ∀ s ∈ streams, s = [] := by
  have hperm := mergeAll_perm le streams
  rw [h] at hperm
  exact List.flatten_eq_nil_iff.mp hperm.nil_eq.symm

/-! ## §3. The folded merge takes the least head. -/

section Heads

variable {le : α → α → Bool}

/-- The first of the merged streams is the least of the heads, and what follows it is the merge of
what is left. -/
theorem exists_take_of_mergeAll_eq_cons
    (total : ∀ a b, le a b = true ∨ le b a = true)
    (trans : ∀ a b c, le a b = true → le b c = true → le a c = true)
    {streams : List (List α)} {a : α} {out : List α} (h : mergeAll le streams = a :: out) :
    ∃ before s after, streams = before ++ (a :: s) :: after
      ∧ (∀ t ∈ before ++ after, ∀ b ∈ t.head?, le a b = true)
      ∧ out = mergeAll le (before ++ s :: after) := by
  induction streams generalizing a out with
  | nil => simp [mergeAll] at h
  | cons t streams ih =>
      rw [mergeAll_cons] at h
      -- either the first stream is empty, or all others are, or the two heads are compared
      cases t with
      | nil =>
          rw [List.nil_merge] at h
          obtain ⟨before, s, after, rfl, hleast, rfl⟩ := ih h
          refine ⟨[] :: before, s, after, rfl, ?_, ?_⟩
          · intro t ht b hb
            rcases List.mem_cons.mp ht with rfl | ht
            · simp at hb
            · exact hleast t ht b hb
          · rw [List.cons_append, mergeAll_cons, List.nil_merge]
      | cons x xs =>
          cases hm : mergeAll le streams with
          | nil =>
              rw [hm, List.merge_right] at h
              injection h with hx hxs
              subst hx hxs
              refine ⟨[], xs, streams, rfl, ?_, ?_⟩
              · intro t ht b hb
                rw [eq_nil_of_mergeAll_eq_nil hm t ht] at hb
                simp at hb
              · rw [List.nil_append, mergeAll_cons, hm, List.merge_right]
          | cons y ys =>
              obtain ⟨before, s, after, hstreams, hleast, hys⟩ := ih hm
              rw [hm, List.cons_merge_cons] at h
              by_cases hxy : le x y = true
              · rw [if_pos hxy] at h
                injection h with hx hout
                subst hx
                refine ⟨[], xs, streams, rfl, ?_, ?_⟩
                · -- the heads of the other streams are above their least one, `y`
                  intro t ht b hb
                  have hyb : le y b = true := by
                    rw [List.nil_append, hstreams, List.mem_append, List.mem_cons] at ht
                    rcases ht with ht | rfl | ht
                    · exact hleast t (List.mem_append_left _ ht) b hb
                    · have hyb : y = b := by simpa using hb
                      subst hyb
                      exact (total y y).elim id id
                    · exact hleast t (List.mem_append_right _ ht) b hb
                  exact trans x y b hxy hyb
                · rw [List.nil_append, mergeAll_cons, hm, hout]
              · rw [if_neg hxy] at h
                injection h with hy hout
                subst hy
                refine ⟨(x :: xs) :: before, s, after, by rw [hstreams]; rfl, ?_, ?_⟩
                · intro t ht b hb
                  rcases List.mem_cons.mp ht with rfl | ht
                  · have hxb : x = b := by simpa using hb
                    subst hxb
                    exact (total x y).resolve_left hxy
                  · exact hleast t ht b hb
                · rw [List.cons_append, mergeAll_cons, ← hys, hout]

/-- **Merging takes the heads of the streams in order**, the earliest one each time. -/
theorem drained_mergeAll
    (total : ∀ a b, le a b = true ∨ le b a = true)
    (trans : ∀ a b c, le a b = true → le b c = true → le a c = true)
    (streams : List (List α)) : Drained le streams (mergeAll le streams) := by
  -- on what comes out, one element of which is taken at a time
  generalize hout : mergeAll le streams = out
  induction out generalizing streams with
  | nil => exact .done (eq_nil_of_mergeAll_eq_nil hout)
  | cons a out ih =>
      obtain ⟨before, s, after, rfl, hleast, hrest⟩ :=
        exists_take_of_mergeAll_eq_cons total trans hout
      exact .take hleast (ih _ hrest.symm)

/-- Taking a head that is the least, and strictly so among the streams before it, is what the
folded merge does. -/
theorem mergeAll_take
    (total : ∀ a b, le a b = true ∨ le b a = true)
    (trans : ∀ a b c, le a b = true → le b c = true → le a c = true)
    {before after : List (List α)} {a : α} {s : List α}
    (hafter : ∀ t ∈ after, ∀ b ∈ t.head?, le a b = true)
    (hbefore : ∀ t ∈ before, ∀ b ∈ t.head?, ¬ le b a = true) :
    mergeAll le (before ++ (a :: s) :: after) = a :: mergeAll le (before ++ s :: after) := by
  induction before with
  | nil =>
      rw [List.nil_append, List.nil_append, mergeAll_cons, mergeAll_cons]
      -- the streams after it do not come first
      cases hm : mergeAll le after with
      | nil => rw [List.merge_right, List.merge_right]
      | cons y ys =>
          obtain ⟨pre, u, post, hpost, _, _⟩ := exists_take_of_mergeAll_eq_cons total trans hm
          have hay : le a y = true := hafter (y :: u) (by simp [hpost]) y rfl
          rw [List.cons_merge_cons_pos _ _ _ hay]
  | cons t before ih =>
      -- nor does the stream right before it, the rest being merged with `a` in front
      have hih := ih fun u hu => hbefore u (List.mem_cons_of_mem t hu)
      rw [List.cons_append, mergeAll_cons, hih, List.cons_append, mergeAll_cons]
      cases t with
      | nil => rw [List.nil_merge, List.nil_merge]
      | cons b bs =>
          have hba : ¬ le b a = true := hbefore (b :: bs) List.mem_cons_self b rfl
          rw [List.cons_merge_cons_neg _ _ _ hba]

/-- **The folded merge is what repeatedly taking the least head gives**, and nothing else is, if no
element occurs twice and no two are before each other. -/
theorem drained_iff
    (total : ∀ a b, le a b = true ∨ le b a = true)
    (trans : ∀ a b c, le a b = true → le b c = true → le a c = true)
    {streams : List (List α)} (hnodup : streams.flatten.Nodup)
    (anti : ∀ a ∈ streams.flatten, ∀ b ∈ streams.flatten,
      le a b = true → le b a = true → a = b)
    (out : List α) : Drained le streams out ↔ out = mergeAll le streams := by
  constructor
  · intro hout
    induction hout with
    | @done streams hempty =>
        have hflat : streams.flatten = [] := List.flatten_eq_nil_iff.mpr hempty
        have hperm := mergeAll_perm le streams
        rw [hflat] at hperm
        exact hperm.eq_nil.symm
    | @take before after a s out hleast hrest ih =>
        have hflat : (before ++ (a :: s) :: after).flatten
            = before.flatten ++ a :: (s ++ after.flatten) := by simp
        have hsub : (before ++ s :: after).flatten.Sublist
            (before ++ (a :: s) :: after).flatten := by
          rw [hflat]
          simp
        have hrestEq := ih (hnodup.sublist hsub) fun x hx y hy =>
          anti x (hsub.subset hx) y (hsub.subset hy)
        rw [hrestEq, mergeAll_take total trans]
        · intro t ht
          exact hleast t (List.mem_append_right _ ht)
        · intro t ht b hb hba
          -- a head before the stream of `a` that is as low as `a` would be `a` itself
          have hab := hleast t (List.mem_append_left _ ht) b hb
          have hbmem : b ∈ before.flatten :=
            List.mem_flatten.mpr ⟨t, ht, List.mem_of_mem_head? hb⟩
          rw [hflat] at hnodup anti
          have heq : a = b := anti a (by simp) b (List.mem_append_left _ hbmem) hab hba
          subst heq
          exact (List.nodup_append.mp hnodup).2.2 a hbmem a (by simp) rfl
  · intro hout
    rw [hout]
    exact drained_mergeAll total trans streams

/-! ## §4. Order. -/

/-- **What is merged from ordered streams is in order.** -/
theorem pairwise_mergeAll
    (total : ∀ a b, le a b = true ∨ le b a = true)
    (trans : ∀ a b c, le a b = true → le b c = true → le a c = true)
    {streams : List (List α)} (h : ∀ s ∈ streams, s.Pairwise fun a b => le a b = true) :
    (mergeAll le streams).Pairwise fun a b => le a b = true := by
  induction streams with
  | nil => exact List.Pairwise.nil
  | cons s streams ih =>
      rw [mergeAll_cons]
      apply List.pairwise_merge trans (by simpa using total)
      · exact h s List.mem_cons_self
      · exact ih fun t ht => h t (List.mem_cons_of_mem s ht)

/-- What passes a test that one of two lists fails throughout comes out as it stands in the
other. -/
theorem filter_merge {p : α → Bool} {xs ys : List α}
    (h : (∀ y ∈ ys, p y = false) ∨ (∀ x ∈ xs, p x = false)) :
    (xs.merge ys le).filter p = xs.filter p ++ ys.filter p := by
  induction xs generalizing ys with
  | nil => simp
  | cons x xs ihx =>
      induction ys with
      | nil => simp
      | cons y ys ihy =>
          rw [List.cons_merge_cons]
          split
          · have hrest := ihx (h.imp_right fun hx z hz => hx z (List.mem_cons_of_mem x hz))
            rw [List.filter_cons, hrest, List.filter_cons (x := x)]
            split <;> rfl
          · rw [List.filter_cons, ihy (h.imp_left fun hy z hz => hy z (List.mem_cons_of_mem y hz))]
            rcases h with h | h
            · simp [h y List.mem_cons_self]
            · -- nothing of the first list passes, so it does not matter where it comes
              have hxs : (x :: xs).filter p = [] := by
                rw [List.filter_eq_nil_iff]
                intro z hz
                simp [h z hz]
              rw [hxs, List.nil_append, List.nil_append, List.filter_cons]

/-- Streams that are told apart by a key come out in their own order. -/
theorem filter_key_mergeAll {κ : Type*} [DecidableEq κ] {key : α → κ} {f : κ → List α}
    (hf : ∀ c, ∀ a ∈ f c, key a = c) {cs : List κ} (hcs : cs.Nodup) (c : κ) :
    (mergeAll le (cs.map f)).filter (key · == c) = if c ∈ cs then f c else [] := by
  have hown : (f c).filter (key · == c) = f c := by
    rw [List.filter_eq_self]
    intro a ha
    simp [hf c a ha]
  induction cs with
  | nil => simp [mergeAll]
  | cons d cs ih =>
      obtain ⟨hd, hcs⟩ := List.nodup_cons.mp hcs
      have hrest := ih hcs
      -- of the first stream and the rest at most one has elements with the key `c`
      have hside : (∀ y ∈ mergeAll le (cs.map f), (key y == c) = false)
          ∨ (∀ x ∈ f d, (key x == c) = false) := by
        by_cases hdc : d = c
        · left
          subst hdc
          rw [if_neg hd, List.filter_eq_nil_iff] at hrest
          intro y hy
          simpa using hrest y hy
        · right
          intro x hx
          simp [hf d x hx, hdc]
      rw [List.map_cons, mergeAll_cons, filter_merge hside, hrest]
      by_cases hdc : d = c
      · subst hdc
        simp [hown, hd]
      · have hnone : (f d).filter (key · == c) = [] := by
          rw [List.filter_eq_nil_iff]
          intro x hx
          simp [hf d x hx, hdc]
        simp [hnone, Ne.symm hdc]

end Heads

/-! ## §5. Ties. -/

/-- Lists that agree for each value of a key on the elements with that value have the same
elements, each as often. -/
theorem perm_of_ties {κ : Type*} [DecidableEq κ] {key : α → κ} {xs ys : List α}
    (h : ∀ k, xs.filter (key · == k) = ys.filter (key · == k)) : xs.Perm ys := by
  classical
  rw [List.perm_iff_count]
  intro a
  calc xs.count a = (xs.filter (key · == key a)).count a := by rw [List.count_filter (by simp)]
    _ = (ys.filter (key · == key a)).count a := by rw [h]
    _ = ys.count a := by rw [List.count_filter (by simp)]

/-- **A sorted list is determined by the order of its ties.**  Two lists in ascending order of a
key that agree for each value of the key on the elements with that value are the same. -/
theorem eq_of_ties {κ : Type*} [DecidableEq κ] {key : α → κ} {le : κ → κ → Bool}
    (anti : ∀ a b, le a b = true → le b a = true → a = b) {xs ys : List α}
    (hxs : xs.Pairwise fun a b => le (key a) (key b) = true)
    (hys : ys.Pairwise fun a b => le (key a) (key b) = true)
    (h : ∀ k, xs.filter (key · == k) = ys.filter (key · == k)) : xs = ys := by
  induction xs generalizing ys with
  | nil =>
      cases ys with
      | nil => rfl
      | cons b ys =>
          have hb := h (key b)
          simp at hb
  | cons a xs ih =>
      cases ys with
      | nil =>
          have ha := h (key a)
          simp at ha
      | cons b ys =>
          rw [List.pairwise_cons] at hxs hys
          have ha : a ∈ (b :: ys).filter (key · == key a) := by
            rw [← h (key a)]
            simp
          have hb : b ∈ (a :: xs).filter (key · == key b) := by
            rw [h (key b)]
            simp
          -- each head occurs in the other list, so neither key is above the other
          have hkey : key a = key b := by
            rcases List.mem_cons.mp (List.mem_filter.mp ha).1 with rfl | ha
            · rfl
            · rcases List.mem_cons.mp (List.mem_filter.mp hb).1 with rfl | hb
              · rfl
              · exact anti _ _ (hxs.1 b hb) (hys.1 a ha)
          have hhead := h (key a)
          simp only [List.filter_cons, beq_self_eq_true, if_true, ← hkey,
            List.cons.injEq] at hhead
          obtain ⟨rfl, htail⟩ := hhead
          congr 1
          apply ih hxs.2 hys.2
          intro k
          by_cases hk : key a = k
          · rw [← hk]
            exact htail
          · have hrest := h k
            rw [List.filter_cons_of_neg (by simpa using hk),
              List.filter_cons_of_neg (by simpa using hk)] at hrest
            exact hrest

/-- Sorting by a key keeps the order of ties. -/
theorem filter_key_mergeSort {κ : Type*} [DecidableEq κ] {key : α → κ} {le : κ → κ → Bool}
    (total : ∀ a b, le a b = true ∨ le b a = true)
    (trans : ∀ a b c, le a b = true → le b c = true → le a c = true) (xs : List α) (k : κ) :
    (xs.mergeSort fun a b => le (key a) (key b)).filter (key · == k)
      = xs.filter (key · == k) := by
  -- what is in order already stays a sublist when sorted, and ties are in order
  have htied : (xs.filter (key · == k)).Pairwise fun a b => le (key a) (key b) = true := by
    apply List.pairwise_of_forall_mem_list
    intro a ha b hb
    have hak : key a = k := by simpa using (List.mem_filter.mp ha).2
    have hbk : key b = k := by simpa using (List.mem_filter.mp hb).2
    rw [hak, hbk]
    exact (total k k).elim id id
  have hsub := List.sublist_mergeSort (fun a b c => trans (key a) (key b) (key c))
    (fun a b => by simpa using total (key a) (key b)) htied (List.filter_sublist)
  have hsub := hsub.filter (key · == k)
  simp only [List.filter_filter, Bool.and_self] at hsub
  have hlength := ((List.mergeSort_perm xs fun a b => le (key a) (key b)).filter
    (key · == k)).length_eq
  exact (hsub.eq_of_length hlength.symm).symm

end SlabWaste.Trace
