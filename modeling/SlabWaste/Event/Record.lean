/-
  SlabWaste.Event.Record
  ──────────────────────
  **EVENTS AS WRITTEN AND EVENTS AS UNDERSTOOD.**

  A trace line carries an event as written: a name and named fields, all text.
  For the events of a family the fields are read as numbers:

      interpret family raw     the allocation or release that `raw` is, or that
                               it is malformed, or that the family has no such event

  Of several faults the first in the order address, call site, bytes requested,
  bytes granted is the one reported.
-/
import SlabWaste.Event.CallSite
import SlabWaste.Event.Kind
import SlabWaste.Number.Binary64

namespace SlabWaste

/-! ## §1. Fields. -/

/-- Named fields, in the order in which their names first appear. -/
abbrev Fields := List (String × String)

namespace Fields

/-- Set a field; a later value replaces an earlier one in its place. -/
def set (key value : String) : Fields → Fields
  | [] => [(key, value)]
  | f :: rest => if f.1 = key then (key, value) :: rest else f :: set key value rest

/-- The fields of a list of assignments. -/
def ofAssignments (xs : List (String × String)) : Fields :=
  xs.foldl (fun fields x => set x.1 x.2 fields) []

end Fields

/-- An event as written. -/
structure RawEvent where
  event : String
  fields : Fields := []
  deriving DecidableEq, Repr

/-- An event with what its line says about it, and its position among the records of its trace. -/
structure Record extends RawEvent where
  cpu : Nat
  timestamp : Binary64
  task : String
  pid : Nat
  seq : Nat
  deriving DecidableEq, Repr

/-! ## §2. Bytes. -/

/-- How many bytes were granted, and how many of them were asked for. -/
structure Bytes where
  granted : Int := 0
  requested : Int := 0
  deriving DecidableEq, Repr

namespace Bytes

/-- The bytes granted that nobody asked for. -/
def waste (b : Bytes) : Int := b.granted - b.requested

instance : Add Bytes := ⟨fun a b => ⟨a.granted + b.granted, a.requested + b.requested⟩⟩
instance : Sub Bytes := ⟨fun a b => ⟨a.granted - b.granted, a.requested - b.requested⟩⟩

/-- The greater of each of the two counts, on its own. -/
def sup (a b : Bytes) : Bytes := ⟨max a.granted b.granted, max a.requested b.requested⟩

end Bytes

/-! ## §3. Events as understood. -/

/-- An event of a slab interface. -/
inductive Event where
  /-- Memory at `address` was granted to a call site. -/
  | allocate (address : Int) (site : CallSite) (bytes : Bytes)
  /-- Memory at `address` was given back. -/
  | release (address : Int)
  deriving DecidableEq, Repr

/-- Why the fields of an event cannot be read. -/
inductive Malformed where
  | missing (field : String)
  | notNumber (fault : Numeral.Fault)
  deriving DecidableEq, Repr

/-- What a written event turns out to be. -/
inductive Interpretation where
  /-- The family has no such event. -/
  | unrelated
  | malformed (why : Malformed)
  | event (e : Event)
  deriving DecidableEq, Repr

/-- An address as the kernel prints it; the null address has a spelling of its own. -/
def readAddress (s : String) : Except Numeral.Fault Int :=
  if s = "(null)" then .ok 0 else Numeral.read .sixteen s

namespace RawEvent

/-- The text of a field. -/
def field (raw : RawEvent) (key : String) : Except Malformed String :=
  match raw.fields.lookup key with
  | some s => .ok s
  | none => .error (.missing key)

/-- A field read by `read`. -/
def number (raw : RawEvent) (key : String) (read : String → Except Numeral.Fault Int) :
    Except Malformed Int := do
  let s ← raw.field key
  (read s).mapError .notNumber

/-- The fields of an event of a given kind. -/
def understand (raw : RawEvent) : Kind → Except Malformed Event
  | .alloc => do
      let address ← raw.number "ptr" readAddress
      let site ← raw.field "call_site"
      let requested ← raw.number "bytes_req" (Numeral.read .ten)
      let granted ← raw.number "bytes_alloc" (Numeral.read .ten)
      .ok (.allocate address (.text site) ⟨granted, requested⟩)
  | .free => do
      let address ← raw.number "ptr" readAddress
      .ok (.release address)

end RawEvent

/-- What a written event is to a family. -/
def interpret (family : Family) (raw : RawEvent) : Interpretation :=
  match family.kind? raw.event with
  | none => .unrelated
  | some kind =>
      match raw.understand kind with
      | .error why => .malformed why
      | .ok e => .event e

end SlabWaste
