import RecordFilter.Command

/-!
# Reading commands

The words of a command line as a command. Options may stand in any order, and the value of one is
the next word or follows an equals sign. After the word `--` no word is an option.
-/

namespace RecordFilter

/-- The words of a command line by what they are. -/
structure Arguments where
  operands : List String
  flags : List String
  options : List (String × String)
deriving DecidableEq, Repr

namespace Arguments

/-- The words that a command knows: flags, and options with a value. -/
structure Vocabulary where
  flags : List String
  options : List String
deriving DecidableEq, Repr

/-- Adds an operand before the others. -/
def addOperand (word : String) (a : Arguments) : Arguments :=
  { a with operands := word :: a.operands }

/-- Adds a flag that has not been given yet. -/
def addFlag? (name : String) (a : Arguments) : Option Arguments :=
  if name ∈ a.flags then none else some { a with flags := name :: a.flags }

/-- Adds an option that has not been given yet. -/
def addOption? (name value : String) (a : Arguments) : Option Arguments :=
  if (a.options.lookup name).isSome then none
  else some { a with options := (name, value) :: a.options }

/-- Whether a word cannot be an operand or the value of an option. -/
def isDashed (word : String) : Bool :=
  word.toList.head? == some '-' && word != "-"

/-- The name and the value of a word with an equals sign. -/
def splitWord? (word : String) : Option (String × String) :=
  match word.toList.dropWhile (· != '=') with
  | [] => none
  | _ :: value => some (String.ofList (word.toList.takeWhile (· != '=')), String.ofList value)

/-- Sorts words by what they are. -/
def ofWords? (v : Vocabulary) : List String → Option Arguments
  | [] => some ⟨[], [], []⟩
  | [word] =>
    if word = "--" then some ⟨[], [], []⟩
    else if word ∈ v.flags then some ⟨[], [word], []⟩
    else if isDashed word then
      match splitWord? word with
      | some (name, value) => if name ∈ v.options then some ⟨[], [], [(name, value)]⟩ else none
      | none => none
    else some ⟨[word], [], []⟩
  | word :: next :: rest =>
    if word = "--" then some ⟨next :: rest, [], []⟩
    else if word ∈ v.flags then do addFlag? word (← ofWords? v (next :: rest))
    else if word ∈ v.options then
      if isDashed next then none else do addOption? word next (← ofWords? v rest)
    else if isDashed word then
      match splitWord? word with
      | some (name, value) =>
        if name ∈ v.options then do addOption? name value (← ofWords? v (next :: rest)) else none
      | none => none
    else do return addOperand word (← ofWords? v (next :: rest))

def option? (a : Arguments) (name : String) : Option String :=
  a.options.lookup name

end Arguments

namespace Command

def filterVocabulary : Arguments.Vocabulary :=
  ⟨[], ["--input", "--filter", "--schema", "--config", "--output"]⟩

def treeVocabulary : Arguments.Vocabulary := ⟨[], []⟩

def tokensVocabulary : Arguments.Vocabulary := ⟨["--json"], []⟩

/-- Takes the arguments of `filter`, which has no operands and needs two options. -/
def ofFilterArguments? (a : Arguments) : Option Command := do
  let input ← a.option? "--input"
  let text ← a.option? "--filter"
  if a.operands.isEmpty then
    some (.filter input text (a.option? "--schema") (a.option? "--config") (a.option? "--output"))
  else none

/-- The only operand. -/
def operand? (a : Arguments) : Option String :=
  match a.operands with
  | [text] => some text
  | _ => none

/-- Reads the words of a command line. -/
def ofWords? : List String → Option Command
  | "filter" :: words => do ofFilterArguments? (← Arguments.ofWords? filterVocabulary words)
  | "ast" :: words => do
    return .tree (← operand? (← Arguments.ofWords? treeVocabulary words))
  | "tokens" :: words => do
    let a ← Arguments.ofWords? tokensVocabulary words
    return .tokens (← operand? a) !a.flags.isEmpty
  | _ => none

def usage : String :=
  "usage: sift filter --input FILE --filter FILTER [--schema FILE] [--config FILE]\n" ++
    "           [--output FILE]\n" ++
    "       sift ast FILTER\n" ++
    "       sift tokens FILTER [--json]"

end Command

end RecordFilter
