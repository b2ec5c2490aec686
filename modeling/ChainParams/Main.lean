import ChainParams.Inspector

/-!
# The program

Reads the file that the arguments name, runs the inspector and prints what it
comes to.
-/

namespace ChainParams.Inspector

/-- The bytes of a file. -/
def readFile (path : String) : IO (Except FileError ByteArray) := do
  try
    return .ok (← IO.FS.readBinFile path)
  catch e =>
    match e with
    | .noFileOrDirectory .. => return .error .notFound
    | e => return .error (.other (toString e))

/-- The file that the arguments name, if they name one. -/
def customFile (args : List String) : IO (Except FileError ByteArray) :=
  match Invocation.ofArguments? args with
  | some (.show { custom := some path, .. }) => readFile path
  | _ => return .error .notFound

/-- Reports on standard error why nothing is shown. -/
def complain : Outcome → IO Unit
  | .failed failure => IO.eprintln ("Error: " ++ failure.message)
  | .misused => IO.eprintln "Error: the arguments cannot be read"
  | .shown _ | .helped => return ()

/-- Runs the inspector on the arguments and gives its exit code. -/
def runProgram (args : List String) : IO UInt32 := do
  let file ← customFile args
  let outcome := run (fun _ => file) args
  IO.print outcome.stdout
  complain outcome
  return outcome.exitCode.toUInt32

end ChainParams.Inspector

def main (args : List String) : IO UInt32 :=
  ChainParams.Inspector.runProgram args
