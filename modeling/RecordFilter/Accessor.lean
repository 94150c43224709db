import RecordFilter.Value

/-!
# Accessors

How a member of a record is read. Two accessors are the same when they were made in the same place
with the same key, whatever they compute; an accessor of a nested member names every hop.
-/

namespace RecordFilter

/-- One step to a member: where it was defined, and the key it was made with, if any. -/
structure Hop where
  origin : String
  key : Option String
deriving DecidableEq, Repr

structure Accessor (α : Type) where
  identity : List Hop
  get : α → Value

namespace Accessor

variable {α β : Type}

def ofOrigin (origin : String) (get : α → Value) : Accessor α :=
  ⟨[⟨origin, none⟩], get⟩

def keyed (origin key : String) (get : α → Value) : Accessor α :=
  ⟨[⟨origin, some key⟩], get⟩

def sameAs (a b : Accessor α) : Bool :=
  a.identity == b.identity

/-- Reads the member of a part of the record; an absent part reads as null. -/
def nest (a : Accessor β) (origin : String) (part : α → Option β) : Accessor α where
  identity := ⟨origin, none⟩ :: a.identity
  get x :=
    match part x with
    | some y => a.get y
    | none => .null

def describe (a : Accessor α) : String :=
  "FieldAccessor \x7b hops: " ++ toString a.identity.length ++ " \x7d"

end Accessor

end RecordFilter
