import RecordFilter.Command.Arguments

/-!
# The program

Reads the files that a command names, carries the command out, and writes its output.
-/

namespace RecordFilter

/-- The content of a file, if it can be read as text. -/
def readFile? (path : String) : IO (Option String) := do
  match ← (IO.FS.readFile path).toBaseIO with
  | .ok text => return some text
  | .error _ => return none

def readFiles : List String → IO (List (String × Option String))
  | [] => return []
  | path :: paths => return (path, ← readFile? path) :: (← readFiles paths)

/-- Puts the output where it belongs, and gives the exit code. -/
def Output.emit : Output → IO UInt32
  | printed text => do
    IO.print text
    return 0
  | written path text => do
    match ← (IO.FS.writeFile path text).toBaseIO with
    | .ok _ => return 0
    | .error e => do
      IO.eprintln ("Error: Failed to write a file: " ++ toString e)
      return 1

def Command.execute (c : Command) : IO UInt32 := do
  let contents ← readFiles c.inputs
  match c.run fun path => (contents.lookup path).join with
  | .ok output => output.emit
  | .error fault => do
    IO.eprint fault.report
    IO.eprintln ("Error: " ++ fault.message)
    return 1

end RecordFilter

def main (words : List String) : IO UInt32 := do
  match RecordFilter.Command.ofWords? words with
  | some command => command.execute
  | none => do
    IO.eprintln RecordFilter.Command.usage
    return 2
