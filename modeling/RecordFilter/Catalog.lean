import RecordFilter.Accessor

/-!
# Member tables

A catalog lists the members of several kinds of record. A member is a scalar or a nested record,
which may be of any kind, the same one included. Flattening expands nested members up to a depth
and joins their names by dots.
-/

namespace RecordFilter

/-- A member of a record of kind `k`, whose part may be of any kind. -/
inductive Member {K : Type} (Rec : K → Type) (k : K) where
  | scalar (name origin : String) (type : ValueType) (excluded : Bool) (get : Rec k → Value)
  | nested (name origin : String) (excluded : Bool) (kind : K) (part : Rec k → Option (Rec kind))

namespace Member

variable {K : Type} {Rec : K → Type} {k : K}

def name : Member Rec k → String
  | scalar name .. | nested name .. => name

def isExcluded : Member Rec k → Bool
  | scalar _ _ _ excluded _ | nested _ _ excluded _ _ => excluded

def isNested : Member Rec k → Bool
  | scalar .. => false
  | nested .. => true

end Member

/-- The kinds of record and the members of each. -/
structure Catalog where
  Kind : Type
  Rec : Kind → Type
  members : (k : Kind) → List (Member Rec k)

/-- A scalar member under its full name. -/
structure MemberField (α : Type) where
  name : String
  accessor : Accessor α
  type : ValueType
  excluded : Bool

/-- The field of a part as one of the whole; it is excluded if the part is. -/
def MemberField.nest {α β : Type} (f : MemberField β) (name origin : String) (excluded : Bool)
    (part : α → Option β) : MemberField α where
  name := name ++ "." ++ f.name
  accessor := f.accessor.nest origin part
  type := f.type
  excluded := f.excluded || excluded

namespace Catalog

/-- The scalar members that at most `depth` nested ones lead to, in the order of the tables. -/
def flatten (c : Catalog) : Nat → (k : c.Kind) → List (MemberField (c.Rec k))
  | 0, k => (c.members k).flatMap fun
    | .scalar name origin type excluded get => [⟨name, .ofOrigin origin get, type, excluded⟩]
    | .nested .. => []
  | depth + 1, k => (c.members k).flatMap fun
    | .scalar name origin type excluded get => [⟨name, .ofOrigin origin get, type, excluded⟩]
    | .nested name origin excluded kind part =>
      (c.flatten depth kind).map (·.nest name origin excluded part)

end Catalog

end RecordFilter
