import RecordFilter.Cache
import RecordFilter.Record

/-!
# Events

What each operation has to report, as a function of its input and its outcome.
-/

namespace RecordFilter

inductive Level where
  | trace
  | debug
  | warn
deriving DecidableEq, Repr

def Level.name : Level → String
  | trace => "TRACE"
  | debug => "DEBUG"
  | warn => "WARN"

inductive Event where
  | scanned (filter : String) (tokens : Nat)
  | parsed (filter : String) (conditions depth : Nat)
  | compiled (tree : Filter) (conditions : Nat)
  | mapped (name : String) (type : ValueType)
  | overridden (name : String) (type : ValueType)
  | excluded (name : String)
  | refused (fault : RegistrationFault)
  | generated (added total : Nat)
  | cacheHit (filter : String)
  | cacheMiss (filter : String)
  | cacheFull (entries : Nat)
  | invalid (filter : String) (e : FilterError)
  | inferred (fields : Nat)
  | unreadable (text : String) (type : ValueType) (fault : CoercionFault)

namespace Event

def level : Event → Level
  | scanned .. => .trace
  | refused _ | unreadable .. => .warn
  | _ => .debug

def message : Event → String
  | scanned filter _ => "Tokenized filter '" ++ filter ++ "'"
  | parsed filter _ _ => "Parsed filter '" ++ filter ++ "'"
  | compiled tree n =>
    "Compiled filter '" ++ tree.render ++ "' into " ++ toString n ++ " condition(s)"
  | mapped name type => "Mapped field '" ++ name ++ "' as " ++ type.name
  | overridden name type => "Overriding mapping for field '" ++ name ++ "' as " ++ type.name
  | excluded name => "Excluded field '" ++ name ++ "' from filtering"
  | refused (.excluded name) => "Rejected mapping for excluded field '" ++ name ++ "'"
  | refused (.conflicting name) => "Rejected conflicting mapping for field '" ++ name ++ "'"
  | generated added total =>
    "Generated " ++ toString added ++ " mapping(s), " ++ toString total ++
      " field(s) mapped in total"
  | cacheHit filter => "Predicate cache hit for '" ++ filter ++ "'"
  | cacheMiss filter => "Predicate cache miss for '" ++ filter ++ "'"
  | cacheFull n => "Predicate cache full, clearing " ++ toString n ++ " entries"
  | invalid filter e => "Filter '" ++ filter ++ "' is not valid: " ++ e.message
  | inferred n => "Inferred " ++ toString n ++ " field(s) from the first record"
  | unreadable text type fault =>
    "Cannot read '" ++ text ++ "' as " ++ type.name ++ ": " ++ fault.message

/-- The numbers that go with the message, by name. -/
def numbers : Event → List (String × Nat)
  | scanned _ n => [("tokens", n)]
  | parsed _ n d => [("conditions", n), ("depth", d)]
  | _ => []

variable {α : Type}

/-! ## Filters -/

def ofScan (filter : String) : List Event :=
  match Token.scan filter with
  | .ok tokens => [scanned filter tokens.length]
  | .error _ => []

def ofParse (filter : String) : List Event :=
  ofScan filter ++
    match Filter.parse filter with
    | .ok tree => [parsed filter tree.conditions.length tree.depth]
    | .error _ => []

def ofBuild (m : Mapper α) (tree : Filter) : List Event :=
  match tree.compile m with
  | .ok p => [compiled tree p.conditions]
  | .error _ => []

def ofCompile (m : Mapper α) (filter : String) : List Event :=
  ofParse filter ++
    match Filter.parse filter with
    | .ok tree => ofBuild m tree
    | .error _ => []

/-- Filters are compiled one after another until one fails. -/
def ofCompileAll (m : Mapper α) : List String → List Event
  | [] => []
  | filter :: filters =>
    ofCompile m filter ++
      match m.compile filter with
      | .ok _ => ofCompileAll m filters
      | .error _ => []

def ofAccepts (m : Mapper α) (filter : String) : List Event :=
  ofCompile m filter ++
    match m.compile filter with
    | .ok _ => []
    | .error e => [invalid filter e]

/-! ## Mappers -/

/-- A registration that changes nothing is not reported. -/
def ofRegister (m : Mapper α) (f : FieldMapping α) : List Event :=
  match m.register f with
  | .error fault => [refused fault]
  | .ok n => if n.version = m.version then [] else [mapped f.name f.type]

def ofOverride (f : FieldMapping α) : List Event :=
  [overridden f.name f.type]

def ofExclude (m : Mapper α) (name : String) : List Event :=
  if m.isExcluded name then [] else [excluded name]

def ofGenerate (m : Mapper α) (overriding : Bool) (fields : List (MemberField α)) : List Event :=
  let (added, n) := m.generateCounted overriding fields
  [generated added n.size]

/-! ## The cache -/

def ofGet (c : Cache α) (filter : String) (m : Mapper α) : List Event :=
  match c.find? (Cache.keyOf filter m) with
  | some _ => [cacheHit filter]
  | none =>
    let stale := c.dropStale m
    cacheMiss filter ::
      (if c.isFull && stale.isFull then [cacheFull stale.size] else []) ++ ofCompile m filter

/-! ## Records -/

def ofInfer (depth : Nat) : List Record → List Event
  | [] => []
  | r :: _ => [inferred (Schema.infer depth r).length]

def ofRegisterAll (m : Mapper Record) : List (FieldMapping Record) → List Event
  | [] => []
  | f :: fs =>
    ofRegister m f ++
      match m.register f with
      | .ok n => ofRegisterAll n fs
      | .error _ => []

def ofMapper (d : Dataset) (id : Nat) : List Event :=
  ofRegisterAll (.empty id d.config) (d.schema.map Schema.mapping)

/-- Reading a text that its type does not take is reported. -/
def ofReadField (f : String × ValueType) (r : Record) : List Event :=
  match r.lookup? (Record.pathOf f.1) with
  | some (.string s) =>
    if f.2 = .string then []
    else match Value.coerce s f.2 with
      | .ok _ => []
      | .error fault => [unreadable s f.2 fault]
  | _ => []

/-- The events of reading every field of every record. -/
def ofReadAll (d : Dataset) : List Event :=
  d.records.flatMap fun r => d.schema.flatMap fun f => ofReadField f r

end Event

end RecordFilter
