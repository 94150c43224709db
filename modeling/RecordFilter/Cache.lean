import RecordFilter.Predicate.Compile

/-!
# A cache of predicates

Compiled filters are kept under the filter text and the mapper's number and version, failures
included. When the cache is full, a new entry takes the place of the entries of the same mapper at
other versions; if there are none, the cache is emptied.
-/

namespace RecordFilter

structure CacheKey where
  filter : String
  mapper : Nat
  version : Nat
deriving DecidableEq, Repr

/-- What compiling a filter gave. -/
abbrev Compiled (α : Type) := Except FilterError (Predicate α)

structure Cache (α : Type) where
  capacity : Nat
  entries : List (CacheKey × Compiled α)
  /-- How often a filter was compiled. -/
  compilations : Nat

namespace Cache

variable {α : Type}

/-- A cache holds at least one entry. -/
def withCapacity (capacity : Nat) : Cache α :=
  ⟨max capacity 1, [], 0⟩

def standardCapacity : Nat := 256

def empty : Cache α :=
  withCapacity standardCapacity

def keyOf (filter : String) (m : Mapper α) : CacheKey :=
  ⟨filter, m.id, m.version⟩

def find? (c : Cache α) (key : CacheKey) : Option (Compiled α) :=
  c.entries.lookup key

def size (c : Cache α) : Nat :=
  c.entries.length

def isEmpty (c : Cache α) : Bool :=
  c.entries.isEmpty

def isFull (c : Cache α) : Bool :=
  c.capacity ≤ c.size

/-- Drops the entries of a mapper at other versions than its own. -/
def dropStale (c : Cache α) (m : Mapper α) : Cache α :=
  { c with entries := c.entries.filter fun (k, _) => k.mapper ≠ m.id || k.version = m.version }

def clear (c : Cache α) : Cache α :=
  { c with entries := [] }

/-- Makes room in a full cache. -/
def evict (c : Cache α) (m : Mapper α) : Cache α :=
  let d := c.dropStale m
  if d.isFull then d.clear else d

/-- Keeps the result of a compilation. -/
def store (c : Cache α) (key : CacheKey) (result : Compiled α) : Cache α :=
  { c with entries := c.entries ++ [(key, result)], compilations := c.compilations + 1 }

/-- The predicate of a filter, compiled unless it is kept. -/
def get (c : Cache α) (filter : String) (m : Mapper α) : Compiled α × Cache α :=
  let key := keyOf filter m
  match c.find? key with
  | some result => (result, c)
  | none =>
    let result := m.compile filter
    (result, (if c.isFull then c.evict m else c).store key result)

/-- Drops every entry of a mapper. -/
def invalidate (c : Cache α) (m : Mapper α) : Cache α :=
  { c with entries := c.entries.filter fun (k, _) => k.mapper ≠ m.id }

end Cache

end RecordFilter
