/-
  SlabWaste.Event.Kind
  ────────────────────
  **WHICH EVENTS COUNT.**

  The kernel has two slab interfaces, each with a tracepoint for every way to
  get memory and one for giving it back.  A run looks at one interface or at
  both.
-/

namespace SlabWaste

/-- What an event does to a piece of memory. -/
inductive Kind where
  | alloc
  | free
  deriving DecidableEq, Repr

/-- The name of a kind. -/
def Kind.name : Kind → String
  | .alloc => "alloc"
  | .free => "free"

/-- The events that a run looks at. -/
inductive Family where
  /-- Both interfaces. -/
  | all
  /-- General-purpose memory only. -/
  | malloc
  /-- Object caches only. -/
  | cache
  deriving DecidableEq, Repr

namespace Family

/-- The name of a family. -/
def name : Family → String
  | .all => "all"
  | .malloc => "malloc"
  | .cache => "cache"

/-- The families. -/
def every : List Family := [.all, .malloc, .cache]

/-- The family of a given name. -/
def ofName? (s : String) : Option Family := every.find? (·.name == s)

/-- The events of general-purpose memory. -/
def mallocEvents : List (String × Kind) :=
  [("kmalloc", .alloc), ("kmalloc_node", .alloc), ("kfree", .free)]

/-- The events of object caches. -/
def cacheEvents : List (String × Kind) :=
  [("kmem_cache_alloc", .alloc), ("kmem_cache_alloc_node", .alloc), ("kmem_cache_free", .free)]

/-- The events of a family, each with its kind. -/
def events : Family → List (String × Kind)
  | .all => mallocEvents ++ cacheEvents
  | .malloc => mallocEvents
  | .cache => cacheEvents

/-- The kind of an event, if the family has it. -/
def kind? (f : Family) (event : String) : Option Kind := f.events.lookup event

/-- The names of a family's events. -/
def eventNames (f : Family) : List String := f.events.map (·.1)

/-- The family has an event of this name. -/
def knows (f : Family) (event : String) : Bool := (f.kind? event).isSome

end Family

end SlabWaste
