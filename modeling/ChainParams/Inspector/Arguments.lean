/-!
# Arguments of the inspector

An option is written `-n NAME`, `-nNAME`, `-n=NAME`, `--network NAME` or
`--network=NAME`, and alike for the file of a custom network.  No option may be
given twice, a value that is an argument of its own does not look like an
option, and there are no other arguments.
-/

namespace ChainParams.Inspector

/-- What the inspector is asked to show. -/
structure Request where
  network : String := "mainnet"
  custom : Option String := none
  json : Bool := false
  deriving DecidableEq

/-- What the arguments ask for. -/
inductive Invocation where
  | help
  | show (request : Request)
  deriving DecidableEq

/-- The options that take a value. -/
inductive ValueOption where
  | network
  | custom
  deriving DecidableEq

/-- The options read so far. -/
structure Seen where
  network : Option String := none
  custom : Option String := none
  json : Bool := false

namespace Seen

/-- What the options ask for. -/
def request (seen : Seen) : Request :=
  { network := seen.network.getD "mainnet", custom := seen.custom, json := seen.json }

/-- Adds the value of an option.  The path of a file is not empty. -/
def give? (seen : Seen) (option : ValueOption) (value : String) : Option Seen :=
  match option with
  | .network => if seen.network.isSome then none else some { seen with network := some value }
  | .custom =>
    if seen.custom.isSome ∨ value = "" then none else some { seen with custom := some value }

/-- Adds the flag. -/
def flag? (seen : Seen) : Option Seen :=
  if seen.json then none else some { seen with json := true }

end Seen

/-- One argument on its own. -/
inductive Argument where
  /-- An option whose value is the next argument. -/
  | awaiting (option : ValueOption)
  | given (option : ValueOption) (value : String)
  | json
  | help
  | separator
  | unknown

namespace Argument

/-- A long option, from its name and the value behind an equals sign. -/
def ofLong (name : String) (value : Option String) : Argument :=
  match name, value with
  | "network", none => awaiting .network
  | "network", some value => given .network value
  | "custom", none => awaiting .custom
  | "custom", some value => given .custom value
  | "json", none => json
  | "help", none => help
  | _, _ => unknown

/-- A short option with a value, from the text behind its letter. -/
def ofShort (option : ValueOption) : List Char → Argument
  | [] => awaiting option
  | '=' :: value => given option (String.ofList value)
  | value => given option (String.ofList value)

/-- The option that an argument is. -/
def ofText (text : String) : Argument :=
  match text.toList with
  | ['-', '-'] => separator
  | '-' :: '-' :: long =>
    let name := String.ofList (long.takeWhile (· ≠ '='))
    match long.dropWhile (· ≠ '=') with
    | [] => ofLong name none
    | _ :: value => ofLong name (some (String.ofList value))
  | '-' :: 'n' :: value => ofShort .network value
  | '-' :: 'c' :: value => ofShort .custom value
  | '-' :: 'h' :: _ => help
  | _ => unknown

end Argument

/-- Whether an argument can be the value of the option before it. -/
def isValue (text : String) : Bool :=
  match text.toList with
  | ['-'] => true
  | '-' :: _ => false
  | _ => true

/-- Reads arguments behind the options already seen; `none` if they are not
understood. -/
def readArguments (seen : Seen) : List String → Option Invocation
  | [] => some (.show seen.request)
  | text :: rest =>
    match Argument.ofText text, rest with
    | .awaiting _, [] => none
    | .awaiting option, value :: rest =>
      if isValue value then do
        let seen ← seen.give? option value
        readArguments seen rest
      else none
    | .given option value, rest => do
      let seen ← seen.give? option value
      readArguments seen rest
    | .json, rest => do
      let seen ← seen.flag?
      readArguments seen rest
    | .help, _ => some .help
    | .separator, [] => some (.show seen.request)
    | .separator, _ :: _ => none
    | .unknown, _ => none

/-- What the arguments of the program ask for; `none` if they are not
understood. -/
def Invocation.ofArguments? (args : List String) : Option Invocation :=
  readArguments {} args

end ChainParams.Inspector
