/-
  SlabWaste.Tally.Run
  ───────────────────
  **THE TALLY OF A RUN.**

  A tally takes events in time order; nothing here puts them in order.  Each
  allocation is charged to its caller and enters the heap, each release finds its
  allocation in the heap and is credited to the caller of that allocation.  A
  release that finds none is unknown: its allocation was made before tracing
  began, most likely.

      Tally.apply t m            one event whose call site is named already
      Tally.process t r e        one event, its call site named by `r`
      Tally.record f t r raw     one written event, read for the family `f`
-/
import SlabWaste.Symbols.Memo
import SlabWaste.Tally.Heap
import SlabWaste.Tally.Usage

namespace SlabWaste

open SlabWaste.Symbols

/-! ## §1. Named events. -/

/-- An event whose caller is known by name. -/
inductive Movement where
  | allocate (address : Int) (caller : String) (bytes : Bytes)
  | release (address : Int)
  deriving DecidableEq, Repr

/-- Name the caller of an event by a fixed rule. -/
def Event.named (name : CallSite → String) : Event → Movement
  | .allocate address site bytes => .allocate address (name site) bytes
  | .release address => .release address

/-- Name the caller of an event, and the resolver after the question; a release asks none. -/
def Event.resolve (r : Resolver) : Event → Movement × Resolver
  | .allocate address site bytes =>
      let (name, r) := r.caller site
      (.allocate address name bytes, r)
  | .release address => (.release address, r)

/-! ## §2. The tally. -/

/-- The state of a run. -/
structure Tally where
  heap : Heap := {}
  callers : CallerTable := .empty
  /-- How many allocations there were. -/
  allocations : Nat := 0
  /-- How many releases there were. -/
  releases : Nat := 0
  /-- How many of the releases found no allocation. -/
  unknown : Nat := 0
  /-- How many written events were looked at. -/
  records : Nat := 0
  /-- How many of them could not be read. -/
  malformed : Nat := 0
  /-- Some trace had lost events. -/
  missed : Bool := false
  /-- How many events the traces say were lost. -/
  lost : Nat := 0

namespace Tally

/-- Account for one named event. -/
def apply (t : Tally) : Movement → Tally
  | .allocate address caller bytes =>
      { t with
        allocations := t.allocations + 1
        callers := t.callers.update caller (·.allocate bytes)
        heap := t.heap.insert ⟨address, caller, bytes⟩ }
  | .release address =>
      match t.heap.get? address with
      | none => { t with releases := t.releases + 1, unknown := t.unknown + 1 }
      | some a =>
          { t with
            releases := t.releases + 1
            callers := t.callers.update a.caller (·.release a.bytes)
            heap := t.heap.erase address }

/-- Account for one event. -/
def process (t : Tally) (r : Resolver) (e : Event) : Tally × Resolver :=
  let (m, r) := e.resolve r
  (t.apply m, r)

/-- Account for one written event. -/
def record (family : Family) (t : Tally) (r : Resolver) (raw : RawEvent) : Tally × Resolver :=
  let t := { t with records := t.records + 1 }
  match interpret family raw with
  | .unrelated => (t, r)
  | .malformed _ => ({ t with malformed := t.malformed + 1 }, r)
  | .event e => t.process r e

/-- Account for a list of written events in order. -/
def recordAll (family : Family) (t : Tally) (r : Resolver) (raws : List RawEvent) :
    Tally × Resolver :=
  raws.foldl (fun s raw => record family s.1 s.2 raw) (t, r)

/-- Take over what a trace says about lost events. -/
def noteLoss (t : Tally) (missed : Bool) (lost : Nat) : Tally :=
  if missed then { t with missed := true, lost := t.lost + lost } else t

/-- Bring the waste of every caller up to date. -/
def settle (t : Tally) : Tally := { t with callers := t.callers.settle }

end Tally

end SlabWaste
