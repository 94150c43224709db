import RecordFilter.Predicate.Compile

/-!
# Selecting records

A filter applied to a list at once, or step by step as the records are asked for.
-/

namespace RecordFilter

variable {α : Type}

/-- The records that a predicate matches, in their order. -/
def Predicate.select (p : Predicate α) (xs : List α) : List α :=
  xs.filter p.holds

/-- The places of the records that a predicate matches. -/
def Predicate.positions (p : Predicate α) (xs : List α) : List Nat :=
  xs.zipIdx.filterMap fun (x, i) => if p.holds x then some i else none

namespace Mapper

/-- The records that a filter text selects. -/
def apply (m : Mapper α) (filter : String) (xs : List α) : Except FilterError (List α) := do
  return (← m.compile filter).select xs

/-- The places of the records that a filter text selects, which stay where they are. -/
def positions (m : Mapper α) (filter : String) (xs : List α) : Except FilterError (List Nat) := do
  return (← m.compile filter).positions xs

end Mapper

/-- A source of records that has been read up to some point, and what is wanted of it. -/
structure Selection (α : Type) where
  predicate : Predicate α
  source : List α

namespace Selection

/-- The first record that matches, and the source behind it; without one the whole source is
read. -/
def find (p : α → Bool) : List α → Option α × List α
  | [] => (none, [])
  | x :: xs => if p x then (some x, xs) else find p xs

/-- The next record that matches. -/
def next (s : Selection α) : Option α × Selection α :=
  let (found, rest) := find s.predicate.holds s.source
  (found, { s with source := rest })

/-- The next records, up to `n` of them, and whether the source ended before. -/
def take (s : Selection α) : Nat → List α × Selection α
  | 0 => ([], s)
  | n + 1 =>
    match s.next with
    | (none, t) => ([], t)
    | (some x, t) =>
      let (xs, u) := t.take n
      (x :: xs, u)

/-- Bounds on how many records are still to come, given an upper bound on the source. -/
def sizeBounds (_ : Selection α) (upper : Option Nat) : Nat × Option Nat :=
  (0, upper)

end Selection

/-- A filter text applied step by step. -/
def Mapper.selection (m : Mapper α) (filter : String) (xs : List α) :
    Except FilterError (Selection α) := do
  return ⟨← m.compile filter, xs⟩

end RecordFilter
