import WifiRoster.Program

/-!
The command line: reads the environment and the files, runs the program and prints what it gives.
-/

open WifiRoster

namespace WifiRoster.Main

/-- The cause of an error of the system, which gives its number with the sign turned. -/
def readError (error : IO.Error) : ReadError :=
  match error with
  | .noFileOrDirectory .. => .missing
  | .inappropriateType _ code _ => if code = 0 - 20 then .notDirectory else .isDirectory
  | .invalidArgument _ code _ =>
    if code = 0 - 36 then .nameTooLong else .other (toString error)
  | _ => .other (toString error)

/-- Reads the text of a file of the system. -/
def readFile (path : String) : IO (Except ReadError String) := do
  try
    return decodeText (← IO.FS.readBinFile path)
  catch error => return .error (readError error)

/-- The values of the variables that the program looks at. -/
def environment : IO (List (String × String)) := do
  let names := Program.filterVariable :: Arguments.profilesVariable ::
    [Setting.singleSelection, .saeSupported, .suiteBSupported, .enhancedOpenSupported,
      .verbose].map Setting.variableName
  names.filterMapM fun name => do
    return (← IO.getEnv name).map (name, ·)

/-- The files that the arguments name, with what reading them gives. -/
def namedFiles (arguments : List String) (lookup : String → Option String) :
    IO (List (String × Except ReadError String)) := do
  match Arguments.ofList arguments lookup with
  | .error _ => return []
  | .ok named =>
    (named.scan :: named.profiles.toList).mapM fun path => return (path, ← readFile path)

end WifiRoster.Main

/-- Runs the program on the arguments of the command line. -/
def main (arguments : List String) : IO UInt32 := do
  let values ← WifiRoster.Main.environment
  let lookup (name : String) : Option String := List.lookup name values
  let files ← WifiRoster.Main.namedFiles arguments lookup
  let ending := Program.run arguments lookup fun path =>
    (List.lookup path files).getD (.error .missing)
  for notice in ending.notices (Program.logFilter lookup) do
    match notice with
    | .event event => IO.eprintln event.line
    | .error text => IO.eprintln text
  IO.print ending.outcome.output
  match ending.outcome with
  | .usage .helpWanted | .usage .versionWanted => pure ()
  | .usage _ => IO.eprintln "Error: the arguments describe no run"
  | _ => pure ()
  return ending.outcome.code.toUInt32
