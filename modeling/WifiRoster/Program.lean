import WifiRoster.Arguments
import WifiRoster.LogFilter
import WifiRoster.Run

/-!
# The program

From arguments, environment and files to an exit code and what is printed. Bad arguments are
reported before bad settings, and those before anything about files. The result goes by itself;
events, as far as they are shown, and the error go where notices go.
-/

namespace WifiRoster.Program

/-- The name and version that the program gives of itself. -/
def version : String := "beaconmap 0.1.0"

/-- How the program ends. -/
inductive Outcome where
  /-- The arguments are bad, or only information is wanted. -/
  | usage (fault : UsageFault)
  | badSetting (error : SettingError)
  | failed (error : RunError)
  | finished (report : String)
deriving DecidableEq, Repr

/-- What the program told while it ran, and how it ended. -/
structure Ending where
  events : List Event
  outcome : Outcome
deriving DecidableEq

/-- What is shown where the environment says nothing else: summaries of runs, but no details. -/
def defaultDirectives : String := "beaconmap=info,beaconmap_cli=info,beaconmap_entries=warn"

/-- The variable of the environment that says which events are shown. -/
def filterVariable : String := "RUST_LOG"

/-- Which events are shown. -/
def logFilter (lookup : String → Option String) : LogFilter :=
  .ofText (lookup filterVariable) defaultDirectives

/-- Runs the program. -/
def run (arguments : List String) (lookup : String → Option String)
    (files : String → Except ReadError String) : Ending :=
  let started : List Event := [.loggingStarted defaultDirectives]
  match Arguments.ofList arguments lookup with
  | .error fault => ⟨started, .usage fault⟩
  | .ok arguments =>
    match Settings.ofEnvironment lookup with
    | .error error => ⟨started, .badSetting error⟩
    | .ok settings =>
      let settings := arguments.apply settings
      let (result, events) :=
        (Run.report settings files arguments.scan arguments.profiles).result
      ⟨started ++ .settled settings :: events,
        match result with
        | .error error => .failed error
        | .ok report => .finished report⟩

namespace Outcome

/-- The exit code. -/
def code : Outcome → Nat
  | usage .helpWanted | usage .versionWanted | finished _ => 0
  | failed _ => 1
  | usage _ | badSetting _ => 2

/-- What is printed as a result. -/
def output : Outcome → String
  | usage .versionWanted => version ++ "\n"
  | finished report => report
  | _ => ""

/-- The error that is reported, if there is one other than bad arguments. -/
def error? : Outcome → Option String
  | badSetting error => some ("Error: " ++ error.message)
  | failed error => some ("Error: " ++ error.message)
  | usage _ | finished _ => none

end Outcome

/-- What is written about a run besides its result. -/
inductive Notice where
  | event (event : Event)
  | error (text : String)
deriving DecidableEq

/-- What is written about a run: the events that the filter shows, and then the error. -/
def Ending.notices (ending : Ending) (filter : LogFilter) : List Notice :=
  (ending.events.filter filter.shows).map .event ++ ending.outcome.error?.toList.map .error

end WifiRoster.Program
