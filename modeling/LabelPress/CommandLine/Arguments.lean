import LabelPress.Row.Batch
import LabelPress.Text.Chars

/-!
# Arguments

A command is a name, followed by options and operands in any order. An option is written as a word
after two hyphens or as a letter after one; letters may stand together. A value follows its option
as the next argument or behind an equals sign, and behind a letter also directly. After a bare `--`
there are only operands.

## Main definitions

* `OptionSpec` - an option that a command knows.
* `Given`, `scan` - what the arguments of a command hold.
* `Invocation`, `Invocation.ofArguments?` - what the program is asked to do.
-/

namespace LabelPress.CommandLine

open LabelPress.Text

/-! ## Options -/

/-- How often an option may stand, and whether it has a value. -/
inductive OptionUse where
  /-- Any number of times, without a value. -/
  | counter
  | switch
  | single
  /-- Any number of times, each time with a value. -/
  | repeated
deriving DecidableEq, Repr

/-- An option that a command knows. -/
structure OptionSpec where
  name : String
  use : OptionUse
  /-- The letter, if there is one. -/
  letter : Option Char := none
  /-- Whether the value is a path, which is never empty. -/
  isPath : Bool := false
deriving DecidableEq, Repr

def OptionSpec.takesValue (spec : OptionSpec) : Bool :=
  match spec.use with
  | .counter | .switch => false
  | .single | .repeated => true

/-- What the arguments of a command hold. -/
structure Given where
  switches : List String := []
  /-- The values in order, by the name of their option. -/
  values : List (String × String) := []
  operands : List String := []
deriving DecidableEq, Repr

namespace Given

/-- Whether a switch was set. -/
def has (given : Given) (name : String) : Bool :=
  given.switches.contains name

/-- The first value of an option. -/
def value? (given : Given) (name : String) : Option String :=
  given.values.lookup name

/-- All values of an option. -/
def valuesOf (given : Given) (name : String) : List String :=
  (given.values.filter (·.1 = name)).map Prod.snd

/-- Sets an option without a value; a switch may be set only once. -/
def set? (given : Given) (spec : OptionSpec) : Option Given :=
  match spec.use with
  | .counter => some given
  | .switch =>
    if given.has spec.name then none
    else some { given with switches := spec.name :: given.switches }
  | .single | .repeated => none

/-- Gives a value to an option; a path may not be empty, and some options have only one value. -/
def setValue? (given : Given) (spec : OptionSpec) (value : String) : Option Given :=
  let more : Given := { given with values := given.values ++ [(spec.name, value)] }
  if spec.isPath ∧ value = "" then none
  else match spec.use with
    | .repeated => some more
    | .single => if (given.value? spec.name).isSome then none else some more
    | .counter | .switch => none

/-- Adds an operand; all operands are paths. -/
def operand? (given : Given) (operand : String) : Option Given :=
  if operand = "" then none else some { given with operands := given.operands ++ [operand] }

end Given

/-- Reads letters after one hyphen. The second component is an option whose value is still to
come. -/
def readLetters (specs : List OptionSpec) (given : Given) :
    List Char → Option (Given × Option OptionSpec)
  | [] => some (given, none)
  | c :: rest => do
    let spec ← specs.find? (·.letter = some c)
    if spec.takesValue then
      if rest = [] then return (given, some spec)
      let value := (dropText? ['='] rest).getD rest
      return (← given.setValue? spec (String.ofList value), none)
    else readLetters specs (← given.set? spec) rest

/-- Reads a word after two hyphens. The second component is an option whose value is still to
come. -/
def readWord (specs : List OptionSpec) (given : Given) (word : List Char) :
    Option (Given × Option OptionSpec) := do
  let (name, value?) := match splitAt? '=' word with
    | some (name, value) => (name, some value)
    | none => (word, none)
  let spec ← specs.find? (·.name.toList = name)
  match spec.takesValue, value? with
  | true, some value => return (← given.setValue? spec (String.ofList value), none)
  | true, none => return (given, some spec)
  | false, none => return (← given.set? spec, none)
  | false, some _ => none

/-- Reads the arguments of a command. `pending` is an option whose value is the next argument; what
starts with a hyphen is no value, unless it is a hyphen alone. -/
def scan (specs : List OptionSpec) (pending : Option OptionSpec) (given : Given) :
    List String → Option Given
  | [] => if pending.isNone then some given else none
  | argument :: arguments =>
    match argument.toList, pending with
    | ['-', '-'], none => arguments.foldlM Given.operand? given
    | '-' :: '-' :: word, none => do
      let (given, pending) ← readWord specs given word
      scan specs pending given arguments
    | '-' :: c :: letters, none => do
      let (given, pending) ← readLetters specs given (c :: letters)
      scan specs pending given arguments
    | '-' :: _ :: _, some _ => none
    | _, some spec => do scan specs none (← given.setValue? spec argument) arguments
    | _, none => do scan specs none (← given.operand? argument) arguments

/-! ## Invocations -/

/-- Where documents go. Without a file they are printed; a printer receives them as well. -/
structure Destination where
  output : Option String := none
  /-- The target of a network printer. -/
  send : Option String := none
deriving DecidableEq, Repr

/-- What compiling a template needs to know. -/
structure CompileSettings where
  template : String
  /-- Whether samples are printed in place of placeholders. -/
  literal : Bool := false
  /-- The key of a printer that overrides the resolution. -/
  printer : Option String := none
  /-- The directory for previews of the images. -/
  previews : Option String := none
  destination : Destination := {}
deriving DecidableEq, Repr

/-- What filling a template from rows needs to know. -/
structure BatchSettings where
  template : String
  rows : String
  /-- Columns with their variables, as they were written. -/
  mappings : List String := []
  /-- The columns that are written to tags. -/
  columns : TagColumns := {}
  /-- The key of a printer that overrides the resolution. -/
  printer : Option String := none
  destination : Destination := {}
deriving DecidableEq, Repr

/-- What the program is asked to do. -/
inductive Invocation where
  | version
  | compile (settings : CompileSettings)
  /-- To list the variables of a template. -/
  | variables (template : String)
  /-- To fill a template from rows. -/
  | batch (settings : BatchSettings)
  /-- To print the lines that write a tag. -/
  | tagWrite (epc userData : Option String)
deriving DecidableEq, Repr

namespace Invocation

/-- The option that every command knows. -/
def verbose : OptionSpec := { name := "verbose", letter := some 'v', use := .counter }

/-- An option with one value. -/
def single (name : String) : OptionSpec := { name, use := .single }

def destinationOptions : List OptionSpec :=
  [{ name := "output", letter := some 'o', use := .single, isPath := true }, single "send"]

/-- The destination that was given. -/
def destination (given : Given) : Destination where
  output := given.value? "output"
  send := given.value? "send"

def ofCompile? (arguments : List String) : Option Invocation := do
  let specs := [verbose, { name := "literal", use := .switch }, single "printer",
    { name := "preview-dir", use := .single, isPath := true }] ++ destinationOptions
  let given ← scan specs none {} arguments
  let [template] := given.operands | none
  return .compile {
    template, literal := given.has "literal", printer := given.value? "printer"
    previews := given.value? "preview-dir", destination := destination given }

def ofVariables? (arguments : List String) : Option Invocation := do
  let given ← scan [verbose] none {} arguments
  let [template] := given.operands | none
  return .variables template

/-- The arguments of the command that fills from rows. The rows must be given. -/
def ofBatch? (arguments : List String) : Option Invocation := do
  let specs := [verbose, { name := "rows", use := .single, isPath := true },
    { name := "map", use := .repeated }, single "write-epc", single "write-user-data",
    single "printer"] ++ destinationOptions
  let given ← scan specs none {} arguments
  let [template] := given.operands | none
  return .batch {
    template, rows := ← given.value? "rows", mappings := given.valuesOf "map"
    columns := { epc := given.value? "write-epc", userData := given.value? "write-user-data" }
    printer := given.value? "printer", destination := destination given }

/-- The arguments of the command that prints the lines for a tag. -/
def ofTagWrite? (arguments : List String) : Option Invocation := do
  let given ← scan [verbose, single "epc", single "user-data"] none {} arguments
  if given.operands ≠ [] then none
  return .tagWrite (given.value? "epc") (given.value? "user-data")

def ofCommand? (name : String) (arguments : List String) : Option Invocation :=
  match name with
  | "compile" => ofCompile? arguments
  | "variables" => ofVariables? arguments
  | "batch" => ofBatch? arguments
  | "rfid-write" => ofTagWrite? arguments
  | _ => none

/-- Letters before the command: whether they ask for the version. -/
def askVersion? : List Char → Option Bool
  | [] => some false
  | 'V' :: _ => some true
  | 'v' :: letters => askVersion? letters
  | _ => none

/-- What the arguments ask for, unless they are not understood. A request for the version decides as
soon as it is met. -/
def ofArguments? : List String → Option Invocation
  | [] => none
  | argument :: arguments =>
    if argument = "--version" then some .version
    else if argument = "--verbose" then ofArguments? arguments
    else match argument.toList with
      | '-' :: c :: letters =>
        match askVersion? (c :: letters) with
        | some true => some .version
        | some false => ofArguments? arguments
        | none => none
      | _ => ofCommand? argument arguments

example : ofArguments? ["-v", "compile", "-ofile", "t.json"]
    = some (.compile { template := "t.json", destination := { output := some "file" } }) := by
  decide +kernel

end Invocation

end LabelPress.CommandLine
