import WifiRoster.Json.Records
import WifiRoster.Json.Writer
import WifiRoster.KeyManagement
import WifiRoster.Platform
import WifiRoster.Profile

/-!
# Written forms of single values

How protocols, key management schemes, meterings, platforms and entry keys are written in JSON.
-/

namespace WifiRoster

open Json (Fault Reader RecordForm required)

namespace Protocol

/-- Reads a protocol by its name in serialized values. -/
def read : Reader Protocol := Reader.variant (all.map fun p => (p.label, p))

/-- Writes a protocol. -/
def write (p : Protocol) : List Char := Json.Writer.string p.label

end Protocol

namespace KeyManagement

/-- Reads a scheme by its name in serialized values. -/
def read : Reader KeyManagement := Reader.variant (all.map fun k => (k.writtenName, k))

/-- Writes a scheme. -/
def write (k : KeyManagement) : List Char := Json.Writer.string k.writtenName

end KeyManagement

namespace Metering

/-- Every metering, in order. -/
def all : List Metering := [auto, metered, unmetered]

/-- The name of a metering in serialized values. -/
def label : Metering → String
  | auto => "auto"
  | metered => "metered"
  | unmetered => "unmetered"

/-- Reads a metering. -/
def read : Reader Metering := Reader.variant (all.map fun m => (m.label, m))

/-- Writes a metering. -/
def write (m : Metering) : List Char := Json.Writer.string m.label

end Metering

/-- A platform whose members are being read. -/
structure PlatformDraft where
  sae : Option Bool
  suiteB : Option Bool
  enhancedOpen : Option Bool

namespace Platform

/-- How a platform is written. -/
def form : RecordForm PlatformDraft Platform where
  wanted := "struct CorrelationContext"
  blank := ⟨none, none, none⟩
  members := [
    { name := "sae_supported"
      optional := false
      isSet := (·.sae.isSome)
      read := fun draft => return { draft with sae := some (← Reader.boolean) } },
    { name := "suite_b_supported"
      optional := false
      isSet := (·.suiteB.isSome)
      read := fun draft => return { draft with suiteB := some (← Reader.boolean) } },
    { name := "enhanced_open_supported"
      optional := false
      isSet := (·.enhancedOpen.isSome)
      read := fun draft => return { draft with enhancedOpen := some (← Reader.boolean) } }]
  finish draft := do
    let sae ← required "sae_supported" draft.sae
    let suiteB ← required "suite_b_supported" draft.suiteB
    let enhancedOpen ← required "enhanced_open_supported" draft.enhancedOpen
    return ⟨sae, suiteB, enhancedOpen⟩

/-- Reads a platform. -/
def read : Reader Platform := Reader.record form

/-- Writes a platform. -/
def write (platform : Platform) : List Char :=
  Json.Writer.object [
    ("sae_supported", Json.Writer.boolean platform.sae),
    ("suite_b_supported", Json.Writer.boolean platform.suiteB),
    ("enhanced_open_supported", Json.Writer.boolean platform.enhancedOpen)]

end Platform

namespace EntryKey

/-- Reads an entry key, which is written as a string that holds its text form. -/
def read : Reader EntryKey := do
  match ofText (← Reader.string) with
  | .ok key => return key
  | .error error => Reader.fail (.refused error.message)

/-- Writes an entry key. -/
def write (key : EntryKey) : List Char := Json.Writer.string key.text

end EntryKey

end WifiRoster
