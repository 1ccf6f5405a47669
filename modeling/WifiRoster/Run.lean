import WifiRoster.Attribution.Account
import WifiRoster.FileTree
import WifiRoster.Format.Profiles
import WifiRoster.Format.Scan
import WifiRoster.Report
import WifiRoster.Settings

/-!
# Runs

A run reads a scan file and then, if there is one, a file of saved profiles, attributes the scan
and gives a report. It stops at the first file that cannot be read; the events up to there stay.
-/

namespace WifiRoster

/-- Why a run stops. -/
inductive RunError where
  | unreadable (path : String) (cause : ReadError)
  | badText (origin : String) (fault : Json.Fault)
deriving DecidableEq, Repr

/-- The wording of the error. -/
def RunError.message : RunError → String
  | unreadable path cause => "failed to read " ++ Text.quoted path ++ ": " ++ cause.message
  | badText origin fault => "invalid JSON in " ++ origin ++ ": " ++ fault.message

/-- A part of a run: it tells events, and it may stop with an error. -/
abbrev Run := ExceptT RunError (StateM (List Event))

namespace Run

/-- Tells an event. -/
def tell (event : Event) : Run Unit := modify (· ++ [event])

/-- The result of a run and the events that it told. -/
def result (run : Run α) : Except RunError α × List Event := StateT.run run []

/-- Goes on with the value of a text, or stops with its fault. -/
def accept (origin : String) : Except Json.Fault α → Run α
  | .ok a => pure a
  | .error fault => throw (.badText origin fault)

/-- The scan of a text. -/
def parseScan (text origin : String) : Run (List Observation) := do
  let scan ← accept origin (readScan text)
  let unnamed := scan.countP (·.name.isEmpty)
  if 0 < unnamed then tell (.hiddenNetworks unnamed)
  return scan

/-- The saved profiles of a text. -/
def parseProfiles (text origin : String) : Run ProfileIndex := do
  let records ← accept origin (readProfiles text)
  if records.any (·.name.isEmpty) then tell .unnamedProfiles
  return .ofRecords records

/-- The text of a file. -/
def load (files : String → Except ReadError String) (path : String) : Run String :=
  match files path with
  | .ok text => pure text
  | .error cause => throw (.unreadable path cause)

/-- The scan of a file. -/
def loadScan (files : String → Except ReadError String) (path : String) :
    Run (List Observation) := do
  let scan ← parseScan (← load files path) path
  tell (.scanLoaded path scan.length)
  return scan

/-- The saved profiles of a file. -/
def loadProfiles (files : String → Except ReadError String) (path : String) :
    Run ProfileIndex := do
  let index ← parseProfiles (← load files path) path
  tell (.profilesLoaded path index.size)
  return index

/-- Attributes a batch and tells about it. -/
def mapScan (policy : Policy) (saved : Option ProfileIndex) (batch : List Sighting) :
    Run EntryMap := do
  for event in policy.account saved batch do
    tell event
  return policy.entries saved batch

/-- A whole run, which ends with the text of its report. -/
def report (settings : Settings) (files : String → Except ReadError String) (scan : String)
    (profiles : Option String) : Run String := do
  let observations ← loadScan files scan
  let saved ← profiles.mapM (loadProfiles files)
  let entries := Entry.ofMap
    (← mapScan settings.policy saved (Sighting.ofScan observations)) saved
  tell (.finished observations.length entries.length settings.policy.mode)
  return WifiRoster.report .english settings.verbose entries

end Run

end WifiRoster
