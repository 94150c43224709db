import RecordFilter.Json.Syntax
import RecordFilter.Record
import RecordFilter.Selection

/-!
# Commands

The three things that the program does: select records from a file, print the tree of a filter, and
print its tokens. A command is a function of the files it reads; its output is text for the terminal
or for one file.
-/

namespace RecordFilter

inductive Command where
  /-- Select the records of the file `input`. -/
  | filter (input filter : String) (schema config output : Option String)
  | tree (filter : String)
  | tokens (filter : String) (asJson : Bool)
deriving DecidableEq, Repr

/-- The content of each file that can be read. -/
abbrev Files := String → Option String

inductive Output where
  | printed (text : String)
  | written (path text : String)
deriving DecidableEq, Repr

/-- Why a command gives no output. -/
inductive CommandFault where
  | unreadable (path : String)
  | config
  | records (fault : RecordFault)
  | syntaxError (filter : String) (e : SyntaxError)
  | build (e : BuildError)

namespace CommandFault

def message : CommandFault → String
  | unreadable path => "Failed to read the file '" ++ path ++ "'"
  | config => RecordFault.json.message
  | records fault => fault.message
  | syntaxError _ e => "Invalid filter: " ++ e.message
  | build e => "Invalid filter: " ++ e.message

/-- The lines that show where a filter text is wrong; none for other faults. -/
def report : CommandFault → String
  | syntaxError filter e => e.report filter ++ "\n"
  | _ => ""

def ofFilter (filter : String) : FilterError → CommandFault
  | .syntaxError e => syntaxError filter e
  | .build e => build e

end CommandFault

namespace Command

/-- The files that a command reads. -/
def inputs : Command → List String
  | filter input _ schema config _ => config.toList ++ input :: schema.toList
  | tree _ | tokens .. => []

def read (files : Files) (path : String) : Except CommandFault String :=
  match files path with
  | some text => .ok text
  | none => .error (.unreadable path)

/-! ## Selecting records -/

def readConfig (files : Files) : Option String → Except CommandFault Config
  | none => .ok .standard
  | some path => do
    match Config.ofText? (← read files path) with
    | some config => return config
    | none => .error .config

/-- The schema in a file, or else that of the first record. -/
def readSchema (files : Files) (config : Config) (records : List Record) :
    Option String → Except CommandFault Schema
  | none => .ok (Schema.inferFirst config.maxNestingDepth records)
  | some path => do (Schema.read (← read files path)).mapError .records

/-- The records of a file with their schema and settings. -/
def readDataset (files : Files) (input : String) (schema config : Option String) :
    Except CommandFault Dataset := do
  let config ← readConfig files config
  let records ← (Record.readAll (← read files input)).mapError .records
  return ⟨config, records, ← readSchema files config records schema⟩

/-- The records of a file that a filter text selects. -/
def selectRecords (files : Files) (input filter : String) (schema config : Option String) :
    Except CommandFault (List Record) := do
  let data ← readDataset files input schema config
  let mapper ← (data.mapper 0).mapError .records
  (mapper.apply filter data.records).mapError (.ofFilter filter)

/-! ## Output -/

/-- Lines on the terminal. -/
def printLine (text : String) : Output :=
  .printed (text ++ "\n")

def printRecords (records : List Record) : Option String → Output
  | none => printLine text
  | some path => .written path text
where
  text : String := (Json.array (records.map .object)).pretty

/-- Fills a cell of a table up to a width. -/
def padTo (width : Nat) (s : String) : String :=
  s ++ String.ofList (List.replicate (width - s.length) ' ')

def tableRow (column kind text : String) : String :=
  padTo 8 column ++ " " ++ padTo 14 kind ++ " " ++ text

def tokenRow (t : Token) : String :=
  tableRow (toString t.span.column) t.kind.name t.kind.describe

/-- The tokens with their columns, a heading above them. -/
def tokenTable (ts : List Token) : String :=
  "\n".intercalate
    (tableRow "Column" "Kind" "Text" :: "-----------------------------" :: ts.map tokenRow)

def printTokens (ts : List Token) (asJson : Bool) : Output :=
  printLine (if asJson then (Json.array (ts.map Token.toJson)).pretty else tokenTable ts)

/-- Carries a command out. -/
def run (files : Files) : Command → Except CommandFault Output
  | filter input f schema config output => do
    return printRecords (← selectRecords files input f schema config) output
  | tree f => do
    let tree ← (Filter.parse f).mapError (.syntaxError f)
    return printLine tree.toJson.pretty
  | tokens f asJson => do
    let ts ← (Token.scan f).mapError (.syntaxError f)
    return printTokens ts asJson

end Command

end RecordFilter
