/-
  SlabWaste.Tally.Heap
  ────────────────────
  **OUTSTANDING ALLOCATIONS.**

  The heap of a run holds, for each address, the allocation that was made there
  last and has not been given back.  A second allocation at a live address
  replaces the first.  The heap is the map from addresses to allocations, and
  nothing else:

      get?_insert, get?_erase    what the two changes do to that map
      ext_get?                   heaps with the same map are the same
-/
import SlabWaste.Event.Record
import Std.Data.ExtTreeMap

namespace SlabWaste

/-! ## §1. Allocations. -/

/-- A piece of live memory: where it is, who asked for it, and how large it is. -/
structure Allocation where
  address : Int
  caller : String
  bytes : Bytes
  deriving DecidableEq, Repr

/-- A one-line description of an allocation, unless one of its sizes is too long to print. -/
def Allocation.describe (a : Allocation) : Except Numeral.Fault String := do
  let granted ← Numeral.decimal a.bytes.granted
  let requested ← Numeral.decimal a.bytes.requested
  return s!"Ptr({Numeral.hex a.address}, {a.caller}, alloc={granted}, req={requested})"

/-! ## §2. The heap. -/

/-- The live allocations by address. -/
structure Heap where
  blocks : Std.ExtTreeMap Int Allocation compare := ∅

namespace Heap

/-- The allocation at an address. -/
def get? (h : Heap) (address : Int) : Option Allocation := h.blocks[address]?

/-- Some allocation lives at the address. -/
def contains (h : Heap) (address : Int) : Bool := (h.get? address).isSome

/-- Record an allocation, in place of any other at its address. -/
def insert (h : Heap) (a : Allocation) : Heap := ⟨h.blocks.insert a.address a⟩

/-- Forget the allocation at an address. -/
def erase (h : Heap) (address : Int) : Heap := ⟨h.blocks.erase address⟩

/-- The number of live allocations. -/
def size (h : Heap) : Nat := h.blocks.size

/-- The live allocations by ascending address. -/
def toList (h : Heap) : List Allocation := h.blocks.toList.map (·.2)

/-! ## §3. The heap as a map. -/

@[simp] theorem get?_empty (x : Int) : ({} : Heap).get? x = none := by
  simp [get?]

theorem get?_insert (h : Heap) (a : Allocation) (x : Int) :
    (h.insert a).get? x = if a.address = x then some a else h.get? x := by
  simp [get?, insert, Std.ExtTreeMap.getElem?_insert]

theorem get?_erase (h : Heap) (address x : Int) :
    (h.erase address).get? x = if address = x then none else h.get? x := by
  simp [get?, erase, Std.ExtTreeMap.getElem?_erase]

theorem ext_get? {h k : Heap} (hx : ∀ x, h.get? x = k.get? x) : h = k := by
  obtain ⟨b⟩ := h
  obtain ⟨c⟩ := k
  exact congrArg Heap.mk (Std.ExtTreeMap.ext_getElem? hx)

end Heap

end SlabWaste
