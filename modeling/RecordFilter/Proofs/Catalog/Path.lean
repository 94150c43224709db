import Mathlib
import RecordFilter.Sample

/-!
# Ways through member tables

A way leads from the table of a kind of record through nested members to a scalar. Flattening lists
the ways through at most `depth` nested members: a field has the names on its way joined by dots,
and is excluded exactly if some member on its way is tagged so, the scalar itself included.
-/

namespace RecordFilter

/-- A member on a way, and whether its table tags it as excluded. -/
structure Waypoint where
  name : String
  excluded : Bool
deriving DecidableEq, Repr

namespace Waypoint

def dotted (way : List Waypoint) : String :=
  ".".intercalate (way.map name)

def anyExcluded (way : List Waypoint) : Bool :=
  way.any excluded

end Waypoint

namespace Catalog

/-- A way from the table of a kind to a scalar, through at most `depth` nested members. -/
inductive Leads (c : Catalog) : Nat → c.Kind → List Waypoint → Prop where
  | scalar {depth : Nat} {k : c.Kind} {name origin : String} {type : ValueType} {excluded : Bool}
      {get : c.Rec k → Value} (h : .scalar name origin type excluded get ∈ c.members k) :
      Leads c depth k [⟨name, excluded⟩]
  | nested {depth : Nat} {k kind : c.Kind} {name origin : String} {excluded : Bool}
      {part : c.Rec k → Option (c.Rec kind)} {way : List Waypoint}
      (h : .nested name origin excluded kind part ∈ c.members k) (hway : Leads c depth kind way) :
      Leads c (depth + 1) k (⟨name, excluded⟩ :: way)

variable {c : Catalog}

/-! ## Fields of flattened tables -/

/-- The field goes the way: it has the name and the tag of the way. -/
def Follows {α : Type} (f : MemberField α) (way : List Waypoint) : Prop :=
  f.name = Waypoint.dotted way ∧ f.excluded = Waypoint.anyExcluded way

/-- What one member adds to a flattened table. -/
def fieldsOf (c : Catalog) (depth : Nat) (k : c.Kind) :
    Member c.Rec k → List (MemberField (c.Rec k))
  | .scalar name origin type excluded get => [⟨name, .ofOrigin origin get, type, excluded⟩]
  | .nested name origin excluded kind part =>
    match depth with
    | 0 => []
    | depth + 1 => (c.flatten depth kind).map (·.nest name origin excluded part)

theorem flatten_eq (depth : Nat) (k : c.Kind) :
    c.flatten depth k = (c.members k).flatMap (c.fieldsOf depth k) := by
  cases depth with
  | zero =>
    rw [flatten]
    refine List.flatMap_congr fun m _ => ?_
    cases m <;> rfl
  | succ depth =>
    rw [flatten]
    refine List.flatMap_congr fun m _ => ?_
    cases m <;> rfl

/-- The table of a kind leads to a scalar of this full name, and tags it as excluded or a nested
member on the way to it. -/
def Withholds (c : Catalog) (depth : Nat) (k : c.Kind) (name : String) : Prop :=
  ∃ way, c.Leads depth k way ∧ Waypoint.dotted way = name ∧ ∃ p ∈ way, p.excluded = true

end Catalog

/-- A table of people that keeps their names from filters, and all that their children hold. -/
def Person.guarded : Catalog where
  Kind := Unit
  Rec _ := Person
  members _ :=
    [.scalar "Id" "person.id" .int false fun p => .int p.id,
      .scalar "Name" "person.name" .string true fun p => .string p.name,
      .nested "ChildClass" "person.child" true () child]

end RecordFilter
