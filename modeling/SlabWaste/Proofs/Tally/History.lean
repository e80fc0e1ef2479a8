/-
  SlabWaste.Proofs.Tally.History
  ──────────────────────────────
  **WHAT A HISTORY SAYS ABOUT AN ADDRESS.**

  A history is a list of movements, and no tally takes part in it.  A moment is
  one movement with all that came before and all that comes after, so what was
  done last at an address, and what is done next, can be read off it:

      lastAt x ms            the last movement at an address
      Moment.returned        the next movement at the address is a release
      Moment.unmatched       a release whose last movement is no allocation
      grantsTo f ms          the moments at which a caller is granted memory

  Sums over the grants of a caller follow the history movement by movement:

      weigh_allocate         an allocation adds its own weight
      weigh_release          a release turns the weight of the one allocation
                             that was last at its address
-/
import SlabWaste.Tally.Run
import Mathlib.Algebra.BigOperators.Group.List.Basic
import Mathlib.Data.List.Induction
import Mathlib.Tactic.Abel

namespace SlabWaste

/-! ## §1. Pairs of byte counts add up. -/

attribute [ext] Bytes

namespace Bytes

@[simp] theorem granted_add (a b : Bytes) : (a + b).granted = a.granted + b.granted := rfl
@[simp] theorem requested_add (a b : Bytes) : (a + b).requested = a.requested + b.requested := rfl
@[simp] theorem granted_sub (a b : Bytes) : (a - b).granted = a.granted - b.granted := rfl
@[simp] theorem requested_sub (a b : Bytes) : (a - b).requested = a.requested - b.requested := rfl

instance : Zero Bytes := ⟨{}⟩
instance : Neg Bytes := ⟨fun a => ⟨-a.granted, -a.requested⟩⟩

@[simp] theorem granted_zero : (0 : Bytes).granted = 0 := rfl
@[simp] theorem requested_zero : (0 : Bytes).requested = 0 := rfl
@[simp] theorem granted_neg (a : Bytes) : (-a).granted = -a.granted := rfl
@[simp] theorem requested_neg (a : Bytes) : (-a).requested = -a.requested := rfl

instance : AddCommGroup Bytes where
  add_assoc a b c := by ext <;> simp <;> omega
  zero_add a := by ext <;> simp
  add_zero a := by ext <;> simp
  add_comm a b := by ext <;> simp <;> omega
  neg_add_cancel a := by ext <;> simp
  sub_eq_add_neg a b := by ext <;> rfl
  nsmul := nsmulRec
  zsmul := zsmulRec

end Bytes

/-! ## §2. Movements. -/

namespace Movement

/-- The address that a movement is about. -/
def address : Movement → Int
  | .allocate address _ _ => address
  | .release address => address

/-- The allocation that a movement makes, if it makes one. -/
def allocation? : Movement → Option Allocation
  | .allocate address caller bytes => some ⟨address, caller, bytes⟩
  | .release _ => none

/-- A movement that grants memory to a caller. -/
def grantsTo (f : String) (m : Movement) : Bool :=
  match m with
  | .allocate _ caller _ => caller == f
  | .release _ => false

/-- The bytes that a movement grants. -/
def bytes : Movement → Bytes
  | .allocate _ _ bytes => bytes
  | .release _ => 0

/-- A movement that gives memory back. -/
def isRelease : Movement → Bool
  | .allocate .. => false
  | .release _ => true

end Movement

/-- The last movement at an address. -/
def lastAt (x : Int) (ms : List Movement) : Option Movement :=
  (ms.filter (·.address == x)).getLast?

/-- The next movement at an address. -/
def nextAt (x : Int) (ms : List Movement) : Option Movement :=
  (ms.filter (·.address == x)).head?

/-- One more movement at the end is the last one at its address. -/
theorem lastAt_append_singleton (x : Int) (ms : List Movement) (m : Movement) :
    lastAt x (ms ++ [m]) = if m.address = x then some m else lastAt x ms := by
  unfold lastAt
  rw [List.filter_append]
  by_cases h : m.address = x
  · simp [h]
  · simp [h]

/-- One more movement at the end is the next one at its address if there was none before. -/
theorem nextAt_append_singleton (x : Int) (ms : List Movement) (m : Movement) :
    nextAt x (ms ++ [m])
      = (nextAt x ms).or (if m.address = x then some m else none) := by
  unfold nextAt
  rw [List.filter_append, List.head?_append]
  by_cases h : m.address = x
  · simp [h]
  · simp [h]

/-! ## §3. Moments. -/

/-- A movement in its history. -/
structure Moment where
  past : List Movement
  here : Movement
  future : List Movement

namespace Moment

/-- The moment in a history that goes on. -/
def extend (m : Movement) (c : Moment) : Moment := { c with future := c.future ++ [m] }

/-- The next movement at the address is a release. -/
def returned (c : Moment) : Bool := (nextAt c.here.address c.future).any Movement.isRelease

/-- Nothing moves at the address `x` any more. -/
def isLastAt (x : Int) (c : Moment) : Bool :=
  c.here.address == x && (nextAt x c.future).isNone

/-- A release, and the last movement at its address before it made no allocation. -/
def unmatched (c : Moment) : Bool :=
  c.here.isRelease && ((lastAt c.here.address c.past).bind Movement.allocation?).isNone

end Moment

/-- The moments of a history that follows `past`. -/
def momentsFrom (past : List Movement) : List Movement → List Moment
  | [] => []
  | m :: ms => ⟨past, m, ms⟩ :: momentsFrom (past ++ [m]) ms

/-- The moments of a history, in order. -/
def moments (ms : List Movement) : List Moment := momentsFrom [] ms

/-- The moments at which a caller is granted memory. -/
def grantsTo (f : String) (ms : List Movement) : List Moment :=
  (moments ms).filter (·.here.grantsTo f)

/-- One more movement at the end lies in the future of all others. -/
theorem momentsFrom_append_singleton (m : Movement) (ms : List Movement) :
    ∀ past : List Movement,
      momentsFrom past (ms ++ [m])
        = (momentsFrom past ms).map (Moment.extend m) ++ [⟨past ++ ms, m, []⟩] := by
  -- from the front, as `momentsFrom` goes, so the past has to be general
  induction ms with
  | nil =>
      intro past
      simp [momentsFrom]
  | cons a ms ih =>
      intro past
      simp only [List.cons_append, momentsFrom, ih, List.map_cons, List.append_assoc,
        List.nil_append]
      rfl

/-- One more movement extends the moments before it and adds its own. -/
theorem moments_append_singleton (ms : List Movement) (m : Movement) :
    moments (ms ++ [m]) = (moments ms).map (Moment.extend m) ++ [⟨ms, m, []⟩] :=
  momentsFrom_append_singleton m ms []

/-- A moment is a place at which its history can be cut. -/
theorem split_of_mem_moments {ms : List Movement} {c : Moment} (h : c ∈ moments ms) :
    ms = c.past ++ c.here :: c.future := by
  induction ms using List.reverseRecOn generalizing c with
  | nil => simp [moments, momentsFrom] at h
  | append_singleton ms m ih =>
      rw [moments_append_singleton, List.mem_append, List.mem_map, List.mem_singleton] at h
      rcases h with ⟨d, hd, rfl⟩ | rfl
      · show ms ++ [m] = d.past ++ d.here :: (d.future ++ [m])
        rw [ih hd]
        simp
      · rfl

/-! ## §4. The last moment at an address. -/

/-- A moment stays the last one at its address until there is another movement there. -/
theorem isLastAt_extend (x : Int) (m : Movement) (c : Moment) :
    (c.extend m).isLastAt x = (c.isLastAt x && !(m.address == x)) := by
  unfold Moment.isLastAt Moment.extend
  rw [nextAt_append_singleton]
  by_cases h : m.address = x
  · cases nextAt x c.future <;> simp [h]
  · cases nextAt x c.future <;> simp [h]

/-- At most one moment is the last at an address, and it is that of the last movement there. -/
theorem filter_isLastAt_moments (x : Int) (ms : List Movement) :
    ((moments ms).filter (·.isLastAt x)).map (·.here) = (lastAt x ms).toList := by
  induction ms using List.reverseRecOn with
  | nil => rfl
  | append_singleton ms m ih =>
      rw [moments_append_singleton, List.filter_append, List.map_append, List.filter_map,
        lastAt_append_singleton]
      by_cases h : m.address = x
      · -- the new movement is the last one there now, and no older one is
        have hold : (moments ms).filter ((·.isLastAt x) ∘ Moment.extend m) = [] := by
          rw [List.filter_eq_nil_iff]
          intro c _
          simp [isLastAt_extend, h]
        have hnew : (⟨ms, m, []⟩ : Moment).isLastAt x = true := by
          simp [Moment.isLastAt, nextAt, h]
        rw [hold, if_pos h]
        simp [hnew]
      · -- the new movement is elsewhere
        have hold : (moments ms).filter ((·.isLastAt x) ∘ Moment.extend m)
            = (moments ms).filter (·.isLastAt x) := by
          apply List.filter_congr
          intro c _
          simp [isLastAt_extend, h]
        have hnew : (⟨ms, m, []⟩ : Moment).isLastAt x = false := by
          simp [Moment.isLastAt, h]
        rw [hold, if_neg h, ← ih, List.map_map]
        simp [hnew, Function.comp_def, Moment.extend]

/-- A grant is returned in a longer history if it was before, or if it was open and the new
movement releases it. -/
theorem returned_extend (m : Movement) (c : Moment) :
    (c.extend m).returned = (c.returned || (c.isLastAt m.address && m.isRelease)) := by
  unfold Moment.returned Moment.isLastAt Moment.extend
  rw [nextAt_append_singleton]
  by_cases h : c.here.address = m.address
  · cases hn : nextAt m.address c.future <;> simp [h, hn]
  · cases hn : nextAt c.here.address c.future <;> simp [h, Ne.symm h]

/-- What is last at an address is not returned. -/
theorem returned_eq_false_of_isLastAt {x : Int} {c : Moment} (h : c.isLastAt x = true) :
    c.returned = false := by
  unfold Moment.isLastAt at h
  rw [Bool.and_eq_true, beq_iff_eq, Option.isNone_iff_eq_none] at h
  unfold Moment.returned
  rw [h.1, h.2]
  rfl

/-! ## §5. Sums over the grants of a caller. -/

/-- A sum over what passes a test is a sum over all that counts nothing for the rest. -/
theorem sum_map_filter {α M : Type*} [AddCommMonoid M] (p : α → Bool) (g : α → M) (xs : List α) :
    ((xs.filter p).map g).sum = (xs.map fun x => if p x then g x else 0).sum := by
  induction xs with
  | nil => rfl
  | cons x xs ih =>
      rw [List.map_cons, List.sum_cons, ← ih, List.filter_cons]
      by_cases h : p x = true
      · rw [if_pos h, if_pos h, List.map_cons, List.sum_cons]
      · rw [if_neg h, if_neg h, zero_add]

section Weigh

variable {M : Type*} [AddCommGroup M] (f : String) (w : Bytes → Bool → M)

/-- The weight of a moment: that of its bytes if the caller is granted them, else nothing. -/
def share (c : Moment) : M := if c.here.grantsTo f then w c.here.bytes c.returned else 0

/-- The sum of the weights of all grants of a caller. -/
def weigh (ms : List Movement) : M := ((moments ms).map (share f w)).sum

/-- What the return of an allocation changes about its weight. -/
def turn (a : Allocation) : M := if a.caller = f then w a.bytes true - w a.bytes false else 0

/-- A sum over the grants of a caller is a sum over all moments that leaves out what is none. -/
theorem sum_map_grantsTo (ms : List Movement) :
    ((grantsTo f ms).map fun c => w c.here.bytes c.returned).sum = weigh f w ms :=
  sum_map_filter (·.here.grantsTo f) _ (moments ms)

/-- The weights of the moments of a history after one more movement: the moments that were last at
its address may turn, and its own is added. -/
theorem weigh_append_singleton (ms : List Movement) (m : Movement) :
    weigh f w (ms ++ [m])
      = ((moments ms).map (share f w ∘ Moment.extend m)).sum + share f w ⟨ms, m, []⟩ := by
  unfold weigh
  rw [moments_append_singleton, List.map_append, List.sum_append, List.map_map]
  simp

/-- An allocation adds its own weight. -/
theorem weigh_allocate (ms : List Movement) (x : Int) (g : String) (b : Bytes) :
    weigh f w (ms ++ [.allocate x g b]) = weigh f w ms + if g = f then w b false else 0 := by
  -- an allocation returns nothing, so the older weights stay
  have hold : share f w ∘ Moment.extend (.allocate x g b) = share f w := by
    funext c
    show share f w (c.extend (.allocate x g b)) = share f w c
    unfold share
    rw [returned_extend]
    simp [Movement.isRelease, Moment.extend]
  have hnew : share f w ⟨ms, .allocate x g b, []⟩ = if g = f then w b false else 0 := by
    simp [share, Movement.grantsTo, Movement.bytes, Moment.returned, nextAt]
  rw [weigh_append_singleton, hold, hnew]
  rfl

/-- Over some moments, those that are last at `x` turn. -/
theorem sum_share_extend_release (x : Int) (cs : List Moment) :
    (cs.map (share f w ∘ Moment.extend (.release x))).sum
      = (cs.map (share f w)).sum
        + ((((cs.filter (·.isLastAt x)).map (·.here)).filterMap Movement.allocation?).map
            (turn f w)).sum := by
  -- moment by moment: only those that were last there turn, each by its own weight
  induction cs with
  | nil => simp
  | cons c cs ih =>
      rw [List.map_cons, List.sum_cons, ih, List.map_cons, List.sum_cons]
      by_cases h : c.isLastAt x = true
      · -- a moment that was last there is returned now, and was not before
        have hturn : share f w (c.extend (.release x))
            = share f w c + ((c.here.allocation?).toList.map (turn f w)).sum := by
          have hret := returned_eq_false_of_isLastAt h
          have hx : c.isLastAt (Movement.release x).address = true := h
          unfold share
          rw [returned_extend, hret, hx]
          obtain ⟨past, here, future⟩ := c
          cases here with
          | allocate y g b =>
              by_cases hg : g = f
              · simp [Moment.extend, Movement.grantsTo, Movement.bytes, Movement.isRelease,
                  Movement.allocation?, turn, hg]
              · simp [Moment.extend, Movement.grantsTo, Movement.allocation?, turn, hg]
          | release y => simp [Moment.extend, Movement.grantsTo, Movement.allocation?]
        rw [List.filter_cons_of_pos h, Function.comp_apply, hturn, List.map_cons,
          List.filterMap_cons]
        cases c.here.allocation? with
        | none => simp [add_assoc]
        | some a =>
            simp only [Option.toList_some, List.map_cons, List.map_nil, List.sum_cons,
              List.sum_nil]
            abel
      · -- any other moment is returned now if it was before
        have hsame : share f w (c.extend (.release x)) = share f w c := by
          have hx : c.isLastAt (Movement.release x).address = false := by
            show c.isLastAt x = false
            simpa using h
          unfold share
          rw [returned_extend, hx]
          simp [Moment.extend]
        rw [List.filter_cons_of_neg h, Function.comp_apply, hsame, add_assoc]

/-- A release turns the allocation that was last at its address. -/
theorem weigh_release (ms : List Movement) (x : Int) :
    weigh f w (ms ++ [.release x])
      = weigh f w ms
        + (((lastAt x ms).bind Movement.allocation?).toList.map (turn f w)).sum := by
  have hnew : share f w ⟨ms, .release x, []⟩ = 0 := rfl
  rw [weigh_append_singleton, hnew, add_zero, sum_share_extend_release, filter_isLastAt_moments]
  cases lastAt x ms with
  | none => rfl
  | some m =>
      cases h : m.allocation? <;> simp [weigh, h]

end Weigh

end SlabWaste
