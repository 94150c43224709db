import RecordFilter.Selection

/-!
# Sample records

Twenty-five people, some with another person as a child. Among them are names that have to be
escaped in a filter and two people with one number.
-/

namespace RecordFilter

inductive Person where
  | mk (id : Int64) (name : String) (child : Option Person) (guid : Uuid) (seen : Option Instant)

namespace Person

def id : Person → Int64
  | mk id .. => id

def name : Person → String
  | mk _ name .. => name

def child : Person → Option Person
  | mk _ _ child .. => child

def guid : Person → Uuid
  | mk _ _ _ guid _ => guid

def seen : Person → Option Instant
  | mk _ _ _ _ seen => seen

/-! ## Members -/

def readSeen (p : Person) : Value :=
  match p.seen with
  | some i => .timestamp i
  | none => .null

/-- People are the only kind of record. -/
def catalog : Catalog where
  Kind := Unit
  Rec _ := Person
  members _ :=
    [.scalar "Id" "person.id" .int false fun p => .int p.id,
      .scalar "Name" "person.name" .string false fun p => .string p.name,
      .scalar "MyGuid" "person.guid" .uuid false fun p => .uuid p.guid,
      .scalar "MyDateTime" "person.seen" .timestamp false readSeen,
      .nested "ChildClass" "person.child" false () child]

def fieldsFor (config : Config) : List (MemberField Person) :=
  catalog.fieldsFor () config

/-- A mapper with the members of people. -/
def mapper (id : Nat) (config : Config) : Mapper Person :=
  (Mapper.empty id config).generate false (fieldsFor config)

/-! ## The people -/

def plain (id : Int64) (name : String) : Person :=
  mk id name none .nil none

def withChild (id : Int64) (name : String) (child : Person) : Person :=
  mk id name (some child) .nil none

def noon (year : Int) (month day : Nat) : Option Instant := do
  return ⟨← Date.of? year month day, ← TimeOfDay.ofClock? 12 0 0 0⟩

def john : Person :=
  mk 1 "John" none (.ofNat 1) (noon 2024 1 1)

def bob : Person :=
  mk 2 "Bob" none (.ofNat 2) (noon 2024 1 1)

def jack : Person :=
  mk 3 "Jack" (some john) .nil (noon 2024 1 3)

def samples : List Person :=
  [john, bob, jack,
    mk 4 "Rose" none (.ofNat 0xe2cec5dd208d4bb5a85250008f8ba366) none,
    plain 5 "Ali",
    mk 6 "Hamid" (some john) (.ofNat 0xde12bae193fa40e492d12e60f95b468c) none,
    withChild 7 "Hasan" bob, withChild 8 "Farhad" jack, plain 9 "Sara", plain 10 "Jorge",
    plain 11 "joe", withChild 12 "jimmy" john, plain 13 "Nazanin", plain 14 "Reza",
    withChild 15 "Korosh" john, withChild 16 "Kamran" bob, withChild 17 "Saeid" jack,
    plain 18 "jessi==ca", plain 19 "Ped=ram", plain 20 "Peyman!", plain 21 "Fereshte",
    plain 22 "LIAM", plain 22 "\\Liam", plain 23 "LI | AM", plain 24 "(LI,AM)"]

/-! ## Filtering them -/

/-- The people that a filter selects, with every setting as it comes. -/
def select (filter : String) : Except FilterError (List Person) :=
  (mapper 0 .standard).apply filter samples

/-- An expectation about a filter that was not met. -/
inductive Surprise where
  | failed (filter : String) (e : FilterError)
  | matched (filter : String) (count : Nat)

def Surprise.message : Surprise → String
  | failed filter e => "filter \x60" ++ filter ++ "\x60 failed: " ++ e.message
  | matched filter count =>
    "filter \x60" ++ filter ++ "\x60 unexpectedly matched " ++ toString count ++ " rows"

def expect (filter : String) : Except Surprise (List Person) :=
  (select filter).mapError (.failed filter)

def selectedNames (filter : String) : Except Surprise (List String) := do
  return (← expect filter).map name

def selectedIds (filter : String) : Except Surprise (List Int64) := do
  return (← expect filter).map id

/-- The error of a filter that is expected to fail. -/
def expectError (filter : String) : Except Surprise FilterError :=
  match select filter with
  | .ok people => .error (.matched filter people.length)
  | .error e => .ok e

end Person

end RecordFilter
