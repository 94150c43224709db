import RecordFilter.Json.Reader

/-!
# Settings of a mapper

The settings, and how they are read from JSON: an object in which any may be left out and others
are ignored, or an array of the settings in their order.
-/

namespace RecordFilter

structure Config where
  /-- Whether field names in different case are different. -/
  caseSensitiveFields : Bool
  /-- Whether the literal `null` asks for null. -/
  allowNullSearch : Bool
  /-- Whether every operator ignores the case of texts. -/
  caseInsensitiveFiltering : Bool
  /-- How many nested members the name of a generated field goes through. -/
  maxNestingDepth : Nat
deriving DecidableEq, Repr

namespace Config

def standard : Config := ⟨true, true, false, 1⟩

/-! ## Reading -/

open Json (Raw Number)

def readBool? : Raw → Option Bool
  | .bool b => some b
  | _ => none

/-- A natural number below `2 ^ 64`, written without fraction and exponent. -/
def readNat? : Raw → Option Nat
  | .number r =>
    match Number.ofRaw? r with
    | some (.natural n) => some n.toNat
    | _ => none
  | _ => none

def setCaseSensitiveFields (c : Config) (r : Raw) : Option Config :=
  (readBool? r).map fun b => { c with caseSensitiveFields := b }

def setAllowNullSearch (c : Config) (r : Raw) : Option Config :=
  (readBool? r).map fun b => { c with allowNullSearch := b }

def setCaseInsensitiveFiltering (c : Config) (r : Raw) : Option Config :=
  (readBool? r).map fun b => { c with caseInsensitiveFiltering := b }

def setMaxNestingDepth (c : Config) (r : Raw) : Option Config :=
  (readNat? r).map fun n => { c with maxNestingDepth := n }

/-- The settings by name, in their order. -/
def setters : List (String × (Config → Raw → Option Config)) :=
  [("case_sensitive_fields", setCaseSensitiveFields), ("allow_null_search", setAllowNullSearch),
    ("case_insensitive_filtering", setCaseInsensitiveFiltering),
    ("max_nesting_depth", setMaxNestingDepth)]

/-- Reads the members of an object; no setting may appear twice. -/
def readMembers? (seen : List String) (c : Config) :
    List (List Json.RawChar × Raw) → Option Config
  | [] => some c
  | (k, v) :: ms => do
    let key := String.ofList (← Json.decode? k)
    match setters.lookup key with
    | none => readMembers? seen c ms
    | some set =>
      if key ∈ seen then none else readMembers? (key :: seen) (← set c v) ms

/-- Reads the items of an array, which may end early. -/
def readItems? (c : Config) : List (Config → Raw → Option Config) → List Raw → Option Config
  | _, [] => some c
  | [], _ :: _ => none
  | set :: sets, r :: rs => do readItems? (← set c r) sets rs

def ofRaw? : Raw → Option Config
  | .object members => readMembers? [] standard members
  | .array items => readItems? standard (setters.map (·.2)) items
  | _ => none

def ofText? (text : String) : Option Config := do
  ofRaw? (← Raw.ofText? text)

end Config

end RecordFilter
