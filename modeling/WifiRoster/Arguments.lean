import WifiRoster.Settings

/-!
# Arguments of the command line

The arguments name a scan file and optionally a file of saved profiles, and override settings.
They are read from left to right. An argument that is unknown or superfluous is refused where it
stands; a value is examined only when the next option or file begins, or at the end.
-/

namespace WifiRoster

/-- An option without a value. -/
inductive Flag where
  | multiKey
  | singleSelection
  | noSae
  | noSuiteB
  | noOwe
  | verbose
deriving DecidableEq, Repr

/-- The arguments of a run. -/
structure Arguments where
  scan : String
  profiles : Option String
  flags : List Flag
deriving DecidableEq, Repr

/-- Why arguments do not describe a run. -/
inductive UsageFault where
  /-- An option is unknown, or there are too many files. -/
  | unknownArgument
  /-- A value is given to an option that takes none. -/
  | superfluousValue
  /-- A value is missing or empty. -/
  | badValue
  /-- An option is given twice, or two that exclude each other. -/
  | conflict
  /-- There is no scan file. -/
  | missingScan
  | helpWanted
  | versionWanted
deriving DecidableEq, Repr

namespace Arguments

/-- An option. -/
inductive Switch where
  | flag (flag : Flag)
  | profiles
  | help
  | version
deriving DecidableEq, Repr

/-- The option with a name that follows two dashes. -/
def Switch.ofName? : String → Option Switch
  | "multi-key" => some (.flag .multiKey)
  | "single-selection" => some (.flag .singleSelection)
  | "no-sae" => some (.flag .noSae)
  | "no-suite-b" => some (.flag .noSuiteB)
  | "no-owe" => some (.flag .noOwe)
  | "verbose" => some (.flag .verbose)
  | "profiles" => some .profiles
  | "help" => some .help
  | "version" => some .version
  | _ => none

/-- The option with a letter that follows one dash. -/
def Switch.ofLetter? : Char → Option Switch
  | 'v' => some (.flag .verbose)
  | 'p' => some .profiles
  | 'h' => some .help
  | 'V' => some .version
  | _ => none

/-- A value that has not been examined. -/
inductive Pending where
  | nothing
  | scan (path : String)
  /-- The option for profiles; its value may still be to come. -/
  | profiles (path : Option String)
deriving DecidableEq, Repr

/-- What the arguments read so far say. -/
structure Progress where
  scan : Option String
  profiles : Option String
  flags : List Flag
  pending : Pending
  /-- Whether every further argument is a file. -/
  filesOnly : Bool
deriving DecidableEq, Repr

namespace Progress

/-- Nothing has been read. -/
def start : Progress where
  scan := none
  profiles := none
  flags := []
  pending := .nothing
  filesOnly := false

/-- Takes a path for the profiles, which is given at most once and not empty. -/
def setProfiles (progress : Progress) (path : String) : Except UsageFault Progress :=
  if progress.profiles.isSome then .error .conflict
  else if path.isEmpty then .error .badValue
  else .ok { progress with profiles := some path, pending := .nothing }

/-- Examines the pending value. -/
def settle (progress : Progress) : Except UsageFault Progress :=
  match progress.pending with
  | .nothing => .ok progress
  | .scan path =>
    if path.isEmpty then .error .badValue
    else .ok { progress with scan := some path, pending := .nothing }
  | .profiles none => .error .badValue
  | .profiles (some path) => progress.setProfiles path

/-- Takes a flag, which is given at most once. -/
def setFlag (progress : Progress) (flag : Flag) : Except UsageFault Progress :=
  if progress.flags.contains flag then .error .conflict
  else .ok { progress with flags := progress.flags ++ [flag] }

/-- Takes an option whose value, if it takes one, is still to come. -/
def setSwitch (progress : Progress) (switch : Switch) : Except UsageFault Progress := do
  let settled ← progress.settle
  match switch with
  | .flag flag => settled.setFlag flag
  | .profiles => return { settled with pending := .profiles none }
  | .help => throw .helpWanted
  | .version => throw .versionWanted

/-- Takes a file that is no value of an option. -/
def setFile (progress : Progress) (path : String) : Except UsageFault Progress := do
  let superfluous := progress.scan.isSome || match progress.pending with
    | .scan _ => true
    | _ => false
  if superfluous then throw .unknownArgument
  let settled ← progress.settle
  return { settled with pending := .scan path }

/-- Takes what follows two dashes: a name, or a name, an equals sign and a value. -/
def setLong (progress : Progress) (text : List Char) : Except UsageFault Progress :=
  let name := String.ofList (text.takeWhile (· != '='))
  match Switch.ofName? name, text.dropWhile (· != '=') with
  | none, _ => .error .unknownArgument
  | some switch, [] => progress.setSwitch switch
  | some .profiles, _ :: value => do (← progress.settle).setProfiles (.ofList value)
  | some _, _ :: _ => .error .superfluousValue

/-- Takes what follows one dash: letters, the last of which may have the rest for a value. -/
def setLetters (progress : Progress) : List Char → Except UsageFault Progress
  | [] => .ok progress
  | letter :: rest =>
    match Switch.ofLetter? letter, rest with
    | none, _ => .error .unknownArgument
    | some .profiles, '=' :: value => do (← progress.settle).setProfiles (.ofList value)
    | some .profiles, _ :: _ => do (← progress.settle).setProfiles (.ofList rest)
    | some switch, _ => do setLetters (← progress.setSwitch switch) rest

/-- Takes one more argument. -/
def take (progress : Progress) (argument : String) : Except UsageFault Progress :=
  if progress.filesOnly then progress.setFile argument
  else
    match argument.toList with
    | ['-', '-'] => .ok { progress with filesOnly := true }
    | '-' :: '-' :: text => progress.setLong text
    | '-' :: letter :: rest => progress.setLetters (letter :: rest)
    | _ =>
      match progress.pending with
      | .profiles none => .ok { progress with pending := .profiles (some argument) }
      | _ => progress.setFile argument

/-- The arguments of a run, where all arguments have been read. A path for the profiles that is
not among them comes from the environment. -/
def finish (progress : Progress) (profilesVariable : Option String) :
    Except UsageFault Arguments := do
  let settled ← progress.settle
  let complete ← match settled.profiles, profilesVariable with
    | none, some path => settled.setProfiles path
    | _, _ => pure settled
  if complete.flags.contains .multiKey && complete.flags.contains .singleSelection then
    throw .conflict
  match complete.scan with
  | none => throw .missingScan
  | some scan => return ⟨scan, complete.profiles, complete.flags⟩

end Progress

/-- The variable of the environment that names the file of saved profiles. -/
def profilesVariable : String := "BEACONMAP_PROFILES"

/-- Reads the arguments of the command line. -/
def ofList (arguments : List String) (lookup : String → Option String) :
    Except UsageFault Arguments := do
  let progress ← arguments.foldlM Progress.take Progress.start
  progress.finish (lookup profilesVariable)

/-- Whether a flag is given. -/
def has (arguments : Arguments) (flag : Flag) : Bool := arguments.flags.contains flag

/-- The settings, overridden by the flags that are given. -/
def apply (arguments : Arguments) (settings : Settings) : Settings :=
  let ⟨⟨mode, platform⟩, verbose⟩ := settings
  let mode := if arguments.has .multiKey then .multiple else mode
  { policy :=
      { mode := if arguments.has .singleSelection then .single else mode
        platform :=
          { sae := platform.sae && !arguments.has .noSae
            suiteB := platform.suiteB && !arguments.has .noSuiteB
            enhancedOpen := platform.enhancedOpen && !arguments.has .noOwe } }
    verbose := verbose || arguments.has .verbose }

end Arguments

end WifiRoster
