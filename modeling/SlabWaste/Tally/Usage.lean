/-
  SlabWaste.Tally.Usage
  ─────────────────────
  **WHAT EACH CALLER HAS USED.**

  Of each caller a run keeps three pairs of byte counts: the total of all its
  allocations, what of it is live, and the peak of what was live, the granted and
  the requested bytes each on its own.  Nothing is clamped, so that figures which
  do not fit together stay visible.

  The waste figures are those of the last settling:

      settle u       `u` with its waste computed from its current and peak bytes

  A table keeps one entry for each caller, in the order in which they came up.
-/
import SlabWaste.Event.Record

namespace SlabWaste

/-! ## §1. One caller. -/

/-- The figures of one caller. -/
structure Usage where
  total : Bytes := {}
  current : Bytes := {}
  peak : Bytes := {}
  allocations : Int := 0
  releases : Int := 0
  /-- The current waste, when it was last settled. -/
  waste : Int := 0
  /-- The waste of the peaks, when it was last settled. -/
  peakWaste : Int := 0
  deriving DecidableEq, Repr

namespace Usage

/-- The figures after an allocation. -/
def allocate (u : Usage) (b : Bytes) : Usage :=
  let current := u.current + b
  { u with
    total := u.total + b
    current
    peak := u.peak.sup current
    allocations := u.allocations + 1 }

/-- The figures after an allocation was given back. -/
def release (u : Usage) (b : Bytes) : Usage :=
  { u with current := u.current - b, releases := u.releases + 1 }

/-- The figures with their waste brought up to date. -/
def settle (u : Usage) : Usage :=
  { u with waste := u.current.waste, peakWaste := u.peak.waste }

end Usage

/-- A caller and its figures. -/
structure Caller where
  name : String
  usage : Usage := {}
  deriving DecidableEq, Repr

namespace Caller

/-- The caller with its waste brought up to date. -/
def settle (c : Caller) : Caller := { c with usage := c.usage.settle }

/-- A pair of byte counts as text. -/
def describeBytes (b : Bytes) : Except Numeral.Fault String := do
  let granted ← Numeral.decimal b.granted
  let requested ← Numeral.decimal b.requested
  return s!"{granted}/{requested}"

/-- A one-line description of a caller, unless one of its figures is too long to print. -/
def describe (c : Caller) : Except Numeral.Fault String := do
  let current ← describeBytes c.usage.current
  let total ← describeBytes c.usage.total
  let peak ← describeBytes c.usage.peak
  return s!"FunctionStats({c.name}, current={current}, total={total}, max={peak})"

end Caller

/-! ## §2. All callers. -/

/-- Change the figures of a caller, who joins at the end if not there yet. -/
def updateCaller (name : String) (f : Usage → Usage) : List Caller → List Caller
  | [] => [⟨name, f {}⟩]
  | c :: rest =>
      if c.name = name then { c with usage := f c.usage } :: rest
      else c :: updateCaller name f rest

/-- Updating leaves the names as they are, but for a new one at the end. -/
theorem map_name_updateCaller (name : String) (f : Usage → Usage) (cs : List Caller) :
    (updateCaller name f cs).map (·.name)
      = if name ∈ cs.map (·.name) then cs.map (·.name) else cs.map (·.name) ++ [name] := by
  induction cs with
  | nil => simp [updateCaller]
  | cons c rest ih =>
      by_cases h : c.name = name
      · simp [updateCaller, h]
      · have h' : ¬ name = c.name := fun e => h e.symm
        by_cases hm : name ∈ rest.map (·.name) <;> simp_all [updateCaller]

/-- The figures of a caller, zero for one that is not there. -/
def usageOf (name : String) (cs : List Caller) : Usage :=
  ((cs.find? (·.name == name)).map (·.usage)).getD {}

theorem usageOf_cons_of_ne {name : String} {c : Caller} (h : c.name ≠ name) (cs : List Caller) :
    usageOf name (c :: cs) = usageOf name cs := by
  simp [usageOf, h]

/-- Updating sets the figures of one caller and leaves the others alone. -/
theorem find?_updateCaller (name : String) (f : Usage → Usage) (cs : List Caller) (x : String) :
    (updateCaller name f cs).find? (·.name == x)
      = if name = x then some ⟨name, f (usageOf name cs)⟩ else cs.find? (·.name == x) := by
  induction cs with
  | nil => by_cases h : name = x <;> simp [updateCaller, usageOf, h]
  | cons c rest ih =>
      by_cases hc : c.name = name
      · rw [updateCaller, if_pos hc, List.find?_cons, List.find?_cons]
        by_cases h : name = x
        · simp [usageOf, hc, h]
        · have hx : (name == x) = false := by simpa using h
          simp [hc, h, hx]
      · rw [updateCaller, if_neg hc, List.find?_cons, ih, usageOf_cons_of_ne hc, List.find?_cons]
        by_cases h : name = x
        · have hx : (c.name == x) = false := by simpa [← h] using hc
          simp [h, hx]
        · simp [h]

/-- The callers of a run, each once, in the order in which they came up. -/
structure CallerTable where
  rows : List Caller
  nodup : (rows.map (·.name)).Nodup

namespace CallerTable

/-- The table without callers. -/
def empty : CallerTable := ⟨[], List.nodup_nil⟩

/-- The entry of a caller. -/
def find? (t : CallerTable) (name : String) : Option Caller := t.rows.find? (·.name == name)

/-- The caller has an entry. -/
def contains (t : CallerTable) (name : String) : Bool := (t.find? name).isSome

/-- The number of callers. -/
def size (t : CallerTable) : Nat := t.rows.length

/-- Change the figures of a caller, starting from zero for a new one. -/
def update (t : CallerTable) (name : String) (f : Usage → Usage) : CallerTable where
  rows := updateCaller name f t.rows
  nodup := by
    rw [map_name_updateCaller]
    split
    · exact t.nodup
    · rename_i h
      exact List.nodup_append.2 ⟨t.nodup, by simp, by
        intro a ha b hb
        rw [List.mem_singleton.1 hb]
        intro e
        exact h (e ▸ ha)⟩

/-- Bring the waste of every caller up to date. -/
def settle (t : CallerTable) : CallerTable where
  rows := t.rows.map Caller.settle
  nodup := by
    have h : (t.rows.map Caller.settle).map (·.name) = t.rows.map (·.name) := by
      simp [Caller.settle, Function.comp_def]
    exact h ▸ t.nodup

theorem find?_update (t : CallerTable) (name : String) (f : Usage → Usage) (x : String) :
    (t.update name f).find? x
      = if name = x then some ⟨name, f (usageOf name t.rows)⟩ else t.find? x :=
  find?_updateCaller name f t.rows x

end CallerTable

end SlabWaste
