import RecordFilter.Number.Double

/-!
# JSON documents

The values of JSON. Numbers are integers of 64 bits where they fit, and doubles otherwise. The
members of an object are kept in the order in which they are printed.
-/

namespace RecordFilter

namespace Json

/-- A number: one below zero, one from zero up, or a double. -/
inductive Number where
  | negative (n : Int64)
  | natural (n : UInt64)
  | double (x : Double)
deriving DecidableEq

end Json

inductive Json where
  | null
  | bool (b : Bool)
  | number (n : Json.Number)
  | string (s : String)
  | array (items : List Json)
  | object (members : List (String × Json))

namespace Json

def ofNat (n : Nat) : Json :=
  number (.natural (.ofNat n))

/-- The members of an object. -/
abbrev Object := List (String × Json)

namespace Object

def get? (o : Object) (key : String) : Option Json :=
  (o.find? (·.1 == key)).map (·.2)

/-- Sets a member; the members stay sorted by key, and of two with one key the later counts. -/
def insert (key : String) (value : Json) : Object → Object
  | [] => [(key, value)]
  | (k, v) :: o =>
    match compare key k with
    | .lt => (key, value) :: (k, v) :: o
    | .eq => (key, value) :: o
    | .gt => (k, v) :: insert key value o

def ofMembers (members : List (String × Json)) : Object :=
  members.foldl (fun o m => insert m.1 m.2 o) []

end Object

end Json

end RecordFilter
