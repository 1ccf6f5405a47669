import WifiRoster.Json.Records
import WifiRoster.Json.Writer
import WifiRoster.Observation

/-!
# Scan files

A scan is written as a list of observations, each a record of the network's name, the beacon's
descriptor, which may be missing or null, and the signal level.
-/

namespace WifiRoster

open Json (Fault Member Reader RecordForm required)

/-- An observation whose members are being read. -/
structure ObservationDraft where
  name : Option String
  descriptor : Option (Option String)
  level : Option Int32

namespace Observation

/-- How an observation is written. -/
def form : RecordForm ObservationDraft Observation where
  wanted := "struct BeaconObservation"
  blank := ⟨none, none, none⟩
  members := [
    { name := "ssid"
      optional := false
      isSet := (·.name.isSome)
      read := fun draft => return { draft with name := some (← Reader.string) } },
    { name := "capabilities"
      optional := true
      isSet := (·.descriptor.isSome)
      read := fun draft =>
        return { draft with descriptor := some (← Reader.optional Reader.string) } },
    { name := "level"
      optional := false
      isSet := (·.level.isSome)
      read := fun draft => return { draft with level := some (← Reader.int32) } }]
  finish draft := do
    let name ← required "ssid" draft.name
    let level ← required "level" draft.level
    return ⟨name, draft.descriptor.getD none, level⟩

/-- Reads an observation. -/
def read : Reader Observation := Reader.record form

/-- Writes an observation. -/
def write (observation : Observation) : List Char :=
  Json.Writer.object [
    ("ssid", Json.Writer.string observation.name),
    ("capabilities", Json.Writer.optional Json.Writer.string observation.descriptor),
    ("level", Json.Writer.integer observation.level.toInt)]

end Observation

/-- Reads the text of a scan file. -/
def readScan (text : String) : Except Fault (List Observation) :=
  Reader.whole (Reader.list Observation.read) text

/-- Writes the text of a scan file. -/
def writeScan (scan : List Observation) : String :=
  String.ofList (Json.Writer.list (scan.map Observation.write))

end WifiRoster
